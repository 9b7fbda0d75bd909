import TrackingPlan.Proofs.Naming.Growth
import TrackingPlan.Proofs.Runs
import Mathlib.Data.Finset.Card
import Mathlib.Data.Finset.Image
import Mathlib.Order.Bounds.Basic

/-!
# What a run of registrations gives out

Whatever is asked of a registry, and in whatever order, what it holds is told by the history of the
calls: which names were given out, in which scope and to which id (`Registry.Tells`).  So the answer
to the next call is told by the history too (`Registry.Answers`), and a scope is told by the calls
that name it (`Registry.LooksAlike`).

§1 the least number that makes a name free · §2 calls and what they gave · §3 what a run keeps ·
§4 the next answer · §5 scopes · §6 the law.
-/

namespace TrackingPlan.Naming

/-! ## §1 The least number that makes a name free -/

/-- The number is the least positive one that, put after the name, makes none of these. -/
def LeastFree (name : String) (names : Finset String) (k : Nat) : Prop :=
  IsLeast {n | 0 < n ∧ name ++ toString n ∉ names} k

/-- **The least number is found early**: all smaller ones make names that are there, and no two of
them the same. -/
theorem LeastFree.le_card {name : String} {names : Finset String} {k : Nat}
    (h : LeastFree name names k) : k ≤ names.card + 1 := by
  have hinjective : Function.Injective fun n : Nat => name ++ toString (n + 1) := by
    intro m n hmn
    have hnumber := toString_nat_injective ((String.append_right_inj name).mp hmn)
    omega
  have hsub : (Finset.range (k - 1)).image (fun n => name ++ toString (n + 1)) ⊆ names := by
    intro candidate hmem
    obtain ⟨n, hn, rfl⟩ := Finset.mem_image.mp hmem
    have hlt := Finset.mem_range.mp hn
    by_contra hfree
    have hle : k ≤ n + 1 := h.2 ⟨Nat.succ_pos n, hfree⟩
    omega
  have hcard := Finset.card_le_card hsub
  rw [Finset.card_image_of_injective _ hinjective, Finset.card_range] at hcard
  omega

theorem appendNumber_leastFree (name : String) (taken : List String) :
    ∃ k, appendNumber name taken = name ++ toString k ∧ LeastFree name taken.toFinset k := by
  obtain ⟨candidate, hfind⟩ := find?_numbered name taken
  have hchosen : appendNumber name taken = candidate := by rw [appendNumber, hfind]; rfl
  rw [numbered, List.find?_map] at hfind
  obtain ⟨i, hi, rfl⟩ := Option.map_eq_some_iff.mp hfind
  obtain ⟨hfree, -, hearlier⟩ := List.find?_range_eq_some.mp hi
  refine ⟨i + 1, hchosen, ⟨Nat.succ_pos i, by simpa using hfree⟩, fun n hn => ?_⟩
  obtain ⟨hpos, hn⟩ := hn
  by_contra hlt
  have htaken := hearlier (n - 1) (by omega)
  have hnumber : n - 1 + 1 = n := by omega
  exact hn (by simpa [hnumber] using htaken)

namespace Registry

/-! ## §2 Calls and what they gave -/

/-- **A call**: an id asks for a name in a scope. -/
structure Call where
  id : String
  scope : String
  name : String
deriving DecidableEq

/-- None of the texts of the call is empty. -/
def Call.Complete (c : Call) : Prop :=
  c.id ≠ "" ∧ c.scope ≠ "" ∧ c.name ≠ ""

/-- Registers as the call asks. -/
def call (r : Registry) (c : Call) : Except NameError (String × Registry) :=
  r.register c.id c.scope c.name

/-- Calls with their answers. -/
abbrev History := List (Call × Except NameError String)

/-- The history of a run that starts with no name given out. -/
def pastOf (calls : List Call) : History :=
  Run.history call {} calls

/-- The registry after such a run. -/
def reached (calls : List Call) : Registry :=
  Run.after call {} calls

/-- **What was given out**: in the scope, the id got the name as its answer. -/
def Gave (past : History) (scope id name : String) : Prop :=
  ∃ c, (c, .ok name) ∈ past ∧ c.scope = scope ∧ c.id = id

/-- The names given out in a scope. -/
def namesGiven (past : History) (scope : String) : Finset String :=
  (past.filterMap fun e => if e.1.scope = scope then e.2.toOption else none).toFinset

variable {r r' : Registry} {past : History} {c : Call} {scope id name : String}

theorem mem_namesGiven : name ∈ namesGiven past scope ↔ ∃ id, Gave past scope id name := by
  rw [namesGiven, List.mem_toFinset, List.mem_filterMap]
  constructor
  · rintro ⟨⟨c, a⟩, he, hname⟩
    dsimp only at hname
    split at hname
    · rename_i hscope
      obtain rfl := except_toOption_eq_some.mp hname
      exact ⟨c.id, c, he, hscope, rfl⟩
    · cases hname
  · rintro ⟨id, c, he, hscope, -⟩
    exact ⟨(c, .ok name), he, if_pos hscope⟩

theorem gave_concat {a : Except NameError String} : Gave (past ++ [(c, a)]) scope id name ↔
    Gave past scope id name ∨ a = .ok name ∧ c.scope = scope ∧ c.id = id := by
  constructor
  · rintro ⟨d, hd, hscope, hid⟩
    rcases List.mem_append.mp hd with hold | hlast
    · exact .inl ⟨d, hold, hscope, hid⟩
    · obtain ⟨rfl, rfl⟩ := Prod.mk.inj (List.mem_singleton.mp hlast)
      exact .inr ⟨rfl, hscope, hid⟩
  · rintro (⟨d, hd, hscope, hid⟩ | ⟨rfl, hscope, hid⟩)
    · exact ⟨d, List.mem_append_left _ hd, hscope, hid⟩
    · exact ⟨c, List.mem_append_right _ List.mem_cons_self, hscope, hid⟩

/-- What a call did, by its answer. -/
theorem registered_of_answer (h : Run.answer call r c = .ok name) :
    c.Complete ∧ r.Registered c.id c.scope c.name name (Run.next call r c) :=
  register_eq_ok_iff.mp (Run.answer_eq_ok_iff.mp h)

/-- **A call is rejected only if a text is empty.** -/
theorem answer_eq_error_iff : (∃ e, Run.answer call r c = .error e) ↔ ¬c.Complete := by
  constructor
  · rintro ⟨e, he⟩ hcomplete
    obtain ⟨⟨assigned, r'⟩, hok⟩ := exists_register_eq_ok r hcomplete
    rw [Run.answer_of_ok hok] at he
    cases he
  · intro hincomplete
    exact exists_error_of_not_ok fun assigned h => hincomplete (registered_of_answer h).1

/-! ## §3 What a run keeps -/

theorem mem_taken_iff : name ∈ r.taken scope ↔ ∃ id, ⟨scope, id, name⟩ ∈ r.registrations := by
  rw [taken, List.mem_map]
  constructor
  · rintro ⟨⟨scope', id, name'⟩, he, rfl⟩
    obtain ⟨hmem, hscope⟩ := List.mem_filter.mp he
    obtain rfl : scope' = scope := by simpa using hscope
    exact ⟨id, hmem⟩
  · rintro ⟨id, hmem⟩
    exact ⟨_, List.mem_filter.mpr ⟨hmem, by simp⟩, rfl⟩

/-- **The name of an id in a scope is the one registered for it.** -/
theorem Sound.get?_eq_some_iff (hr : r.Sound) :
    r.get? id scope = some name ↔ ⟨scope, id, name⟩ ∈ r.registrations := by
  refine ⟨mem_of_get?, fun hmem => ?_⟩
  cases hget : r.get? id scope with
  | none =>
    rw [get?, Option.map_eq_none_iff, List.find?_eq_none] at hget
    exact absurd (hget _ hmem) (by simp)
  | some other =>
    have hsymm : Std.Symm fun e f : Registration =>
        e.scope = f.scope → e.id ≠ f.id ∧ e.name ≠ f.name :=
      ⟨fun e f hef hscope => ⟨(hef hscope.symm).1.symm, (hef hscope.symm).2.symm⟩⟩
    by_contra hne
    have hapart := hr.distinct.forall (mem_of_get? hget) hmem
      (fun heq => hne (congrArg some (congrArg Registration.name heq)))
    exact (hapart rfl).1 rfl

/-- **The history tells what the registry holds.** -/
structure Tells (r : Registry) (past : History) : Prop where
  sound : r.Sound
  gave : ∀ scope id name, ⟨scope, id, name⟩ ∈ r.registrations ↔ Gave past scope id name

theorem Tells.start : Tells {} [] := by
  refine ⟨.start, fun scope id name => iff_of_false List.not_mem_nil ?_⟩
  rintro ⟨_, hmem, -⟩
  exact List.not_mem_nil hmem

/-- **Each call keeps to the history.** -/
theorem Tells.next (h : r.Tells past) (c : Call) :
    (Run.next call r c).Tells (past ++ [(c, Run.answer call r c)]) := by
  cases hanswer : Run.answer call r c with
  | error e =>
    rw [Run.next_of_error hanswer]
    refine ⟨h.sound, fun scope id name => ?_⟩
    rw [gave_concat, h.gave]
    exact ⟨.inl, fun hgave => hgave.elim (fun h => h) nofun⟩
  | ok assigned =>
    obtain ⟨-, hregistered⟩ := registered_of_answer hanswer
    refine ⟨h.sound.register hregistered, fun scope id name => ?_⟩
    rw [gave_concat, ← h.gave]
    generalize Run.next call r c = r' at hregistered ⊢
    cases hregistered with
    | found hget =>
      refine ⟨.inl, fun hgave => hgave.elim (fun h => h) ?_⟩
      rintro ⟨hname, rfl, rfl⟩
      obtain rfl := Except.ok.inj hname
      exact mem_of_get? hget
    | added _ =>
      rw [List.mem_append, List.mem_singleton, Registration.mk.injEq, Except.ok.injEq]
      exact or_congr_right ⟨fun ⟨hscope, hid, hname⟩ => ⟨hname.symm, hscope.symm, hid.symm⟩,
        fun ⟨hname, hscope, hid⟩ => ⟨hscope.symm, hid.symm, hname.symm⟩⟩

/-- **After every run the history tells what the registry holds.** -/
theorem tells_reached (calls : List Call) : (reached calls).Tells (pastOf calls) :=
  Run.invariant .start (fun _ _ c h => h.next c) calls

theorem Tells.get?_eq_some_iff (h : r.Tells past) :
    r.get? id scope = some name ↔ Gave past scope id name :=
  h.sound.get?_eq_some_iff.trans (h.gave scope id name)

theorem Tells.toFinset_taken (h : r.Tells past) (scope : String) :
    (r.taken scope).toFinset = namesGiven past scope := by
  ext name
  rw [List.mem_toFinset, mem_taken_iff, mem_namesGiven]
  exact exists_congr fun id => h.gave scope id name

/-- What was given out stays given out: a longer run begins with the history of a shorter one. -/
theorem Gave.of_prefix {calls : List Call} (h : Gave (pastOf calls) scope id name)
    (later : List Call) : Gave (pastOf (calls ++ later)) scope id name := by
  obtain ⟨c, hmem, hscope, hid⟩ := h
  refine ⟨c, ?_, hscope, hid⟩
  rw [pastOf, Run.history_append]
  exact List.mem_append_left _ hmem

/-! ## §4 The next answer -/

/-- **How a registry answers a call**, given the past: not at all if a text is empty, with the first
name of an id that has one, and else with a name that is free: the name asked for if it is, or the
one with the least number that makes it so. -/
inductive Answers (past : History) (c : Call) : Except NameError String → Prop
  | rejected {e : NameError} : ¬c.Complete → Answers past c (.error e)
  | again {first : String} : c.Complete → Gave past c.scope c.id first → Answers past c (.ok first)
  | free : c.Complete → (∀ name, ¬Gave past c.scope c.id name) →
      c.name ∉ namesGiven past c.scope → Answers past c (.ok c.name)
  | numbered {k : Nat} : c.Complete → (∀ name, ¬Gave past c.scope c.id name) →
      c.name ∈ namesGiven past c.scope → LeastFree c.name (namesGiven past c.scope) k →
      k ≤ (namesGiven past c.scope).card + 1 → Answers past c (.ok (c.name ++ toString k))

theorem Tells.answers (h : r.Tells past) (c : Call) :
    Answers past c (Run.answer call r c) := by
  cases hanswer : Run.answer call r c with
  | error e => exact .rejected (answer_eq_error_iff.mp ⟨e, hanswer⟩)
  | ok assigned =>
    obtain ⟨hcomplete, hregistered⟩ := registered_of_answer hanswer
    generalize Run.next call r c = r' at hregistered
    cases hregistered with
    | found hget => exact .again hcomplete (h.get?_eq_some_iff.mp hget)
    | added hget =>
      have hnew : ∀ name, ¬Gave past c.scope c.id name := by
        intro name hgave
        cases hget.symm.trans (h.get?_eq_some_iff.mpr hgave)
      have htaken : c.name ∈ r.taken c.scope ↔ c.name ∈ namesGiven past c.scope := by
        rw [← h.toFinset_taken, List.mem_toFinset]
      rw [choose]
      by_cases hmem : c.name ∈ r.taken c.scope
      · obtain ⟨k, hk, hleast⟩ := appendNumber_leastFree c.name (r.taken c.scope)
        rw [if_pos (List.contains_iff_mem.mpr hmem), h.sound.onCollision, hk]
        rw [h.toFinset_taken] at hleast
        exact .numbered hcomplete hnew (htaken.mp hmem) hleast hleast.le_card
      · rw [if_neg fun hcontains => hmem (List.contains_iff_mem.mp hcontains)]
        exact .free hcomplete hnew fun hgiven => hmem (htaken.mpr hgiven)

/-! ## §5 Scopes -/

/-- **Registries that look alike in a scope**: they hold the same of it, and deal alike with
collisions. -/
structure LooksAlike (scope : String) (r r' : Registry) : Prop where
  registrations : r.registrations.filter (·.scope == scope) =
    r'.registrations.filter (·.scope == scope)
  onCollision : r.onCollision = r'.onCollision

theorem LooksAlike.refl (scope : String) (r : Registry) : LooksAlike scope r r :=
  ⟨rfl, rfl⟩

theorem LooksAlike.get?_eq (h : LooksAlike scope r r') (id : String) :
    r.get? id scope = r'.get? id scope := by
  have hfilter : ∀ t : Registry, t.get? id scope =
      ((t.registrations.filter (·.scope == scope)).find? (·.id == id)).map (·.name) := by
    intro t
    rw [get?, List.find?_filter]
    congr 2
    funext e
    rw [Bool.decide_and, Bool.decide_eq_true, Bool.decide_eq_true]
  rw [hfilter, hfilter, h.registrations]

theorem LooksAlike.choose_eq (h : LooksAlike scope r r') (name : String) :
    r.choose scope name = r'.choose scope name := by
  have htaken : r.taken scope = r'.taken scope := by rw [taken, taken, h.registrations]
  rw [choose, choose, htaken, h.onCollision]

/-- A call is answered alike in registries that look alike in its scope. -/
theorem LooksAlike.answer_eq (h : LooksAlike c.scope r r') :
    Run.answer call r c = Run.answer call r' c := by
  unfold Run.answer call register
  rw [h.get?_eq, h.choose_eq]
  split
  · rfl
  · split
    · rfl
    · split
      · rfl
      · cases r'.get? c.id c.scope <;> rfl

/-- **A call of a scope changes what is seen of it alike.** -/
theorem LooksAlike.next (h : LooksAlike c.scope r r') :
    LooksAlike c.scope (Run.next call r c) (Run.next call r' c) := by
  cases hanswer : Run.answer call r c with
  | error e =>
    rw [Run.next_of_error hanswer, Run.next_of_error (h.answer_eq.symm.trans hanswer)]
    exact h
  | ok assigned =>
    obtain ⟨-, hleft⟩ := registered_of_answer hanswer
    obtain ⟨-, hright⟩ := registered_of_answer (h.answer_eq.symm.trans hanswer)
    generalize Run.next call r c = t at hleft ⊢
    generalize Run.next call r' c = t' at hright ⊢
    cases hleft with
    | found hget =>
      cases hright with
      | found _ => exact h
      | added hnone => cases hnone.symm.trans ((h.get?_eq c.id).symm.trans hget)
    | added hnone =>
      generalize hname : r.choose c.scope c.name = assigned at hright
      cases hright with
      | found hget => cases hnone.symm.trans ((h.get?_eq c.id).trans hget)
      | added _ =>
        refine ⟨?_, h.onCollision⟩
        rw [List.filter_append, List.filter_append, h.registrations]

/-- **A call of another scope leaves the scope as it is.** -/
theorem LooksAlike.next_of_ne (h : LooksAlike scope r r') (hc : c.scope ≠ scope) :
    LooksAlike scope (Run.next call r c) r' := by
  cases hanswer : Run.answer call r c with
  | error e =>
    rw [Run.next_of_error hanswer]
    exact h
  | ok assigned =>
    obtain ⟨-, hregistered⟩ := registered_of_answer hanswer
    generalize Run.next call r c = t at hregistered ⊢
    cases hregistered with
    | found _ => exact h
    | added _ =>
      refine ⟨?_, h.onCollision⟩
      rw [List.filter_append, h.registrations]
      simp [hc]

/-- The calls of a scope alone give its part of the history, and the names that it has. -/
theorem past_filter (calls : List Call) (scope : String) :
    (pastOf calls).filter (fun e => e.1.scope == scope) =
        pastOf (calls.filter (·.scope == scope)) ∧
      LooksAlike scope (reached calls) (reached (calls.filter (·.scope == scope))) := by
  have hseen : ∀ {t u : Registry} {c : Call}, LooksAlike scope t u → (c.scope == scope) = true →
      Run.answer call t c = Run.answer call u c ∧
        LooksAlike scope (Run.next call t c) (Run.next call u c) := by
    intro t u c h hc
    obtain rfl : c.scope = scope := by simpa using hc
    exact ⟨h.answer_eq, h.next⟩
  have hunseen : ∀ {t u : Registry} {c : Call}, LooksAlike scope t u → (c.scope == scope) = false →
      LooksAlike scope (Run.next call t c) u :=
    fun h hc => h.next_of_ne (by simpa using hc)
  exact Run.history_filter hseen hunseen calls (LooksAlike.refl scope {})

/-! ## §6 The law -/

/-- **The law of a registry**, over a run of calls that starts with no name given out. -/
structure Lawful (calls : List Call) : Prop where
  /-- In one scope, ids that differ have names that differ. -/
  apart : ∀ {scope id id' name}, Gave (pastOf calls) scope id name →
    Gave (pastOf calls) scope id' name → id = id'
  /-- An id keeps its first name, whatever it asks for. -/
  stable : ∀ {scope id name name'}, Gave (pastOf calls) scope id name →
    Gave (pastOf calls) scope id name' → name = name'
  /-- What was given out is found from then on, and nothing else is found. -/
  found : ∀ {scope id name}, Gave (pastOf calls) scope id name →
    ∀ later, (reached (calls ++ later)).get? id scope = some name
  given : ∀ {scope id name}, (reached calls).get? id scope = some name →
    Gave (pastOf calls) scope id name
  /-- The next call is answered by what was given out. -/
  answers : ∀ c, Answers (pastOf calls) c (Run.answer call (reached calls) c)
  /-- A rejected call changes nothing. -/
  rejected : ∀ c, ¬c.Complete → reached (calls ++ [c]) = reached calls
  /-- A scope is told by the calls that name it. -/
  scopes : ∀ scope, (pastOf calls).filter (fun e => e.1.scope == scope) =
      pastOf (calls.filter (·.scope == scope)) ∧
    ∀ id, (reached calls).get? id scope =
      (reached (calls.filter (·.scope == scope))).get? id scope

/-- **Every run of registrations keeps the law.** -/
theorem lawful_calls (calls : List Call) : Lawful calls := by
  have htells := tells_reached calls
  refine ⟨fun h h' => ?_, fun h h' => ?_, fun h later => ?_, fun h => htells.get?_eq_some_iff.mp h,
    fun c => htells.answers c, fun c hc => ?_, fun scope => ?_⟩
  · exact htells.sound.id_unique (htells.get?_eq_some_iff.mpr h) (htells.get?_eq_some_iff.mpr h')
  · exact Option.some.inj
      ((htells.get?_eq_some_iff.mpr h).symm.trans (htells.get?_eq_some_iff.mpr h'))
  · exact (tells_reached (calls ++ later)).get?_eq_some_iff.mpr (h.of_prefix later)
  · obtain ⟨e, he⟩ := answer_eq_error_iff.mpr hc
    rw [reached, Run.after_append]
    exact Run.next_of_error he
  · obtain ⟨hhistory, halike⟩ := past_filter calls scope
    exact ⟨hhistory, fun id => halike.get?_eq id⟩

end Registry

end TrackingPlan.Naming
