import TrackingPlan.Proofs.Bindings.Identifiers
import TrackingPlan.Proofs.Bindings.Settled

/-!
# The identifiers of fields and methods

A plan name becomes a member name in steps: its words are joined, an empty one is filled in, a
leading digit and a keyword that stays one are set off, the registry may put a number at the end,
and a keyword is written raw.  No step undoes another (`Identifier.ofMember?_extends`), so whatever
was asked for before, a call for a member gives an identifier of the emitted language, and only the
call that asks again for the same member gives it again (`members_legal`).

§1 calls for members · §2 runs of calls
-/

namespace TrackingPlan.Bindings.Emit

open Naming (Registry Extends memberName)

/-! ## §1 Calls for members -/

/-- **A call for a member**: for a field of an owner, or for a method. -/
inductive MemberCall where
  | field (owner key : String)
  | method (id name : String)
  deriving DecidableEq, Repr

namespace MemberCall

/-- The step of emitting that the call is. -/
def run : MemberCall → Emit Identifier
  | .field owner key => fieldIdentifier owner key
  | .method id name => methodIdentifier id name

/-- The scope that the name is for. -/
def scope : MemberCall → String
  | .field owner _ => fieldScope owner
  | .method _ _ => methodScope

/-- The member of its scope that the call is for. -/
def id : MemberCall → String
  | .field _ key => key
  | .method id _ => id

/-- The plan name that the member is named for. -/
def plan : MemberCall → String
  | .field _ key => key
  | .method _ name => name

theorem run_eq (c : MemberCall) :
    c.run = (register c.id c.scope (memberName c.plan) >>= fun assigned =>
      identifier (Identifier.ofMember? assigned) assigned) := by
  cases c <;> rfl

/-- Only the id of a call can be empty. -/
theorem complete {c : MemberCall} (hid : c.id ≠ "") :
    c.id ≠ "" ∧ c.scope ≠ "" ∧ memberName c.plan ≠ "" := by
  refine ⟨hid, ?_, (Naming.memberName_spelled c.plan).ne_empty⟩
  cases c <;> simp [scope, fieldScope, methodScope]

variable {R R' : Registry} {c : MemberCall}

/-- The names after a call, which keeps what it registered also where no identifier comes of it. -/
def next (R : Registry) (c : MemberCall) : Registry :=
  (c.run.outcome R).2

/-- **What a call can do to the names**: nothing, or the registration that it asks for. -/
theorem next_cases (R : Registry) (c : MemberCall) : next R c = R ∨
    ∃ assigned, R.Registered c.id c.scope (memberName c.plan) assigned (next R c) := by
  unfold next
  rw [run_eq, outcome_bind, outcome_register]
  cases hregister : R.register c.id c.scope (memberName c.plan) with
  | error fault => exact .inl rfl
  | ok result =>
    obtain ⟨assigned, R'⟩ := result
    refine .inr ⟨assigned, ?_⟩
    have hregistered := (Registry.register_eq_ok_iff.mp hregister).2
    dsimp only
    cases Identifier.ofMember? assigned with
    | none => exact hregistered
    | some i => exact hregistered

theorem next_of_gives {i : Identifier} (h : c.run.Gives R i R') : next R c = R' :=
  congrArg Prod.snd h

theorem id_ne_empty_of_gives {i : Identifier} (h : c.run.Gives R i R') : c.id ≠ "" := by
  rw [run_eq] at h
  obtain ⟨assigned, R₁, hregister, -⟩ := gives_bind_iff.mp h
  exact (Registry.register_eq_ok_iff.mp (gives_register_iff.mp hregister)).1.1

theorem grows_next (R : Registry) (c : MemberCall) : R.Grows (next R c) := by
  rcases next_cases R c with hsame | ⟨assigned, hregistered⟩
  · exact hsame.symm ▸ .refl R
  · exact hregistered.grows

end MemberCall

/-- **The names of members are what plan names ask for**, with a number at most, in a registry that
keeps names apart. -/
structure MemberNames (R : Registry) : Prop where
  sound : R.Sound
  asked : ∀ e ∈ R.registrations, ∃ plan, Extends (memberName plan) e.name

namespace MemberNames

variable {R R' : Registry} {c : MemberCall}

theorem start : MemberNames {} :=
  ⟨.start, fun _ he => absurd he List.not_mem_nil⟩

/-- **One registration keeps them**, if it is for a member. -/
theorem register (hR : MemberNames R) {id scope plan assigned : String}
    (h : R.Registered id scope (memberName plan) assigned R') : MemberNames R' := by
  refine ⟨hR.sound.register h, ?_⟩
  cases h with
  | found _ => exact hR.asked
  | added _ =>
    intro e he
    rcases List.mem_append.mp he with he | he
    · exact hR.asked e he
    · obtain rfl := List.mem_singleton.mp he
      exact ⟨plan, Registry.extends_choose hR.sound.onCollision scope _⟩

/-- **One call keeps them.** -/
theorem next (hR : MemberNames R) (c : MemberCall) : MemberNames (MemberCall.next R c) := by
  rcases MemberCall.next_cases R c with hsame | ⟨assigned, hregistered⟩
  · exact hsame.symm ▸ hR
  · exact hR.register hregistered

/-- **Every call gives a legal identifier**, and its name is found from then on. -/
theorem gives (hR : MemberNames R) (hid : c.id ≠ "") :
    ∃ i, c.run.Gives R i (MemberCall.next R c) ∧ i.IsMember ∧
      (MemberCall.next R c).get? c.id c.scope = some i.name := by
  obtain ⟨⟨assigned, R'⟩, hregister⟩ := Registry.exists_register_eq_ok R (MemberCall.complete hid)
  have hregistered := (Registry.register_eq_ok_iff.mp hregister).2
  have hget := hregistered.get?_eq_some
  -- an id that was named before keeps its name, so the plan name it extends may be another one
  obtain ⟨plan, hextends⟩ := (hR.register hregistered).asked _ (Registry.mem_of_get? hget)
  obtain ⟨i, hfound, hname, hmember⟩ := Identifier.ofMember?_extends hextends
  have hgives : c.run.Gives R i R' := by
    rw [MemberCall.run_eq, gives_bind_iff]
    exact ⟨assigned, R', gives_register_iff.mpr hregister, gives_identifier_iff.mpr ⟨hfound, rfl⟩⟩
  obtain rfl := MemberCall.next_of_gives hgives
  exact ⟨i, hgives, hmember, hname ▸ hget⟩

/-- What a call gave is a legal identifier, and the one whose name is found. -/
theorem of_gives (hR : MemberNames R) {i : Identifier} (h : c.run.Gives R i R') :
    i.IsMember ∧ R'.get? c.id c.scope = some i.name := by
  obtain ⟨j, hgives, hmember, hget⟩ := hR.gives (MemberCall.id_ne_empty_of_gives h)
  obtain ⟨hij, rfl⟩ := Prod.mk.inj (hgives.symm.trans h)
  obtain rfl := Except.ok.inj hij
  exact ⟨hmember, hget⟩

end MemberNames

/-! ## §2 Runs of calls -/

/-- **The names after a run of calls**, from none. -/
def namesAfter (calls : List MemberCall) : Registry :=
  calls.foldl MemberCall.next {}

theorem namesAfter_append (calls more : List MemberCall) :
    namesAfter (calls ++ more) = more.foldl MemberCall.next (namesAfter calls) :=
  List.foldl_append

theorem memberNames_foldl {R : Registry} (hR : MemberNames R) (calls : List MemberCall) :
    MemberNames (calls.foldl MemberCall.next R) := by
  induction calls generalizing R with
  | nil => exact hR
  | cons c rest ih => exact ih (hR.next c)

theorem grows_foldl (R : Registry) (calls : List MemberCall) :
    R.Grows (calls.foldl MemberCall.next R) := by
  induction calls generalizing R with
  | nil => exact .refl R
  | cons c rest ih => exact (MemberCall.grows_next R c).trans (ih _)

/-- **Member identifiers are legal and apart.**  After any run of calls, a call for a member that
has an id gives an identifier, and a legal one.  Of the calls that come later for the same scope,
those for the same member give the same, and no other gives one of that name. -/
theorem members_legal (calls : List MemberCall) (c : MemberCall) (hid : c.id ≠ "") :
    ∃ i, c.run.Gives (namesAfter calls) i (namesAfter (calls ++ [c])) ∧ i.IsMember ∧
      ∀ (later : List MemberCall) (c' : MemberCall) (i' : Identifier) (R' : Registry),
        c'.scope = c.scope → c'.run.Gives (namesAfter (calls ++ c :: later)) i' R' →
          (c'.id = c.id → i' = i) ∧ (c'.id ≠ c.id → i'.name ≠ i.name) := by
  have hnames : MemberNames (namesAfter calls) := memberNames_foldl .start calls
  obtain ⟨i, hgives, hmember, hget⟩ := hnames.gives hid
  refine ⟨i, by rwa [namesAfter_append], hmember, fun later c' i' R' hscope hgives' => ?_⟩
  rw [namesAfter_append, List.foldl_cons] at hgives'
  have hlater := memberNames_foldl (hnames.next c) later
  obtain ⟨hmember', hget'⟩ := hlater.of_gives hgives'
  -- both names are found in the registry that the later call leaves
  have hR' := MemberCall.next_of_gives hgives'
  have hgrows := (grows_foldl (MemberCall.next (namesAfter calls) c) later).trans
    (hR' ▸ MemberCall.grows_next _ c')
  have hkept := hgrows.get?_eq_some hget
  rw [hscope] at hget'
  constructor
  · intro hsame
    rw [hsame, hkept] at hget'
    exact hmember'.eq_of_name hmember (Option.some.inj hget').symm
  · intro hdiffer hname
    rw [hname] at hget'
    exact hdiffer ((hR' ▸ hlater.next c').sound.id_unique hget' hkept)

/-- Two keys that ask for one name, and a keyword. -/
theorem members_legal_firstName :
    (MemberCall.field "a" "first_name").id ≠ "" ∧
      ∃ i, (MemberCall.field "a" "first_name").run.Gives
          (namesAfter [.field "a" "firstName", .field "a" "type"]) i
          (namesAfter [.field "a" "firstName", .field "a" "type", .field "a" "first_name"]) ∧
        i.IsMember ∧ i.text = "first_name1" := by
  obtain ⟨i, hgives, hmember, -⟩ := members_legal
    [.field "a" "firstName", .field "a" "type"] (.field "a" "first_name") (by decide)
  have htext : ((MemberCall.field "a" "first_name").run.outcome
      (namesAfter [.field "a" "firstName", .field "a" "type"])).1.toOption.map Identifier.text =
        some "first_name1" := by
    decide +kernel
  rw [hgives] at htext
  exact ⟨by decide, i, hgives, hmember, Option.some.inj htext⟩

end TrackingPlan.Bindings.Emit
