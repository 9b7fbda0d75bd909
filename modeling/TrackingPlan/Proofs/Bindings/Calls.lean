import TrackingPlan.Proofs.Bindings.Defaults
import TrackingPlan.Proofs.Bindings.Emitters
import TrackingPlan.Proofs.Schema.Faults

/-!
# Rules that describe one call

The name of an event tells track calls apart and no others.  Validation compares it for calls of
every kind, and so does the id of a method; the name of a payload's type leaves it out.  So an
accepted model may have two rules for one part of an identify, page, screen or group call, if they
are called differently: then there are two methods for that part.  Where the names do not differ
like that, all is as it should be.

§1 one call · §2 rules in a model · §3 methods · §4 accepted models.
-/

namespace TrackingPlan

open Bindings Bindings.Emit
open Naming (Registry)

variable {s : Schema} {r r' : Rule} {kind : CallKind} {part : CallPart}

/-! ## §1 One call -/

/-- **Two rules describe one call**: the same part of calls of one kind, and of one name if that
tells such calls apart. -/
structure Rule.SameCall (r r' : Rule) : Prop where
  kind : r.event.kind = r'.event.kind
  part : r.part = r'.part
  name : r.event.kind = .track → r.event.name = r'.event.name

theorem Rule.SameCall.symm (h : r.SameCall r') : r'.SameCall r :=
  ⟨h.kind.symm, h.part.symm, fun htrack => (h.name (h.kind.trans htrack)).symm⟩

theorem Rule.key_eq_iff : r.key = r'.key ↔ r.SameCall r' ∧ r.event.name = r'.event.name := by
  constructor
  · intro h
    obtain ⟨hkind, hrest⟩ := Prod.mk.inj h
    obtain ⟨hname, hpart⟩ := Prod.mk.inj hrest
    exact ⟨⟨hkind, hpart, fun _ => hname⟩, hname⟩
  · rintro ⟨hsame, hname⟩
    exact Prod.ext hsame.kind (Prod.ext hname hsame.part)

/-- A call is known by its name. -/
theorem CallKind.ofText?_text (kind : CallKind) : ofText? kind.text = some kind := by
  cases kind <;> rfl

theorem CallPart.ofText?_text (part : CallPart) : ofText? part.text = some part := by
  cases part <;> rfl

theorem CallKind.colon_not_mem_text (kind : CallKind) : ':' ∉ kind.text.toList := by
  cases kind <;> decide

theorem CallPart.colon_not_mem_text (part : CallPart) : ':' ∉ part.text.toList := by
  cases part <;> decide

/-- **The id of a method tells apart the rules that validation does**: an event may have colons in
its name, but the kind of a call and its part have none. -/
theorem methodId_eq_iff : methodId r = methodId r' ↔ r.key = r'.key := by
  constructor
  · intro h
    have hlist := congrArg String.toList h
    simp only [methodId, String.toList_append, List.append_assoc] at hlist
    -- the first colon ends the kind and the last begins the part, whatever the name is
    obtain ⟨hkind, hrest⟩ := append_colon_inj r.event.kind.colon_not_mem_text
      r'.event.kind.colon_not_mem_text hlist
    obtain ⟨hname, hpart⟩ := append_colon_inj_last r.part.colon_not_mem_text
      r'.part.colon_not_mem_text hrest
    have hkind := congrArg CallKind.ofText? (String.toList_inj.mp hkind)
    have hpart := congrArg CallPart.ofText? (String.toList_inj.mp hpart)
    rw [CallKind.ofText?_text, CallKind.ofText?_text, Option.some_inj] at hkind
    rw [CallPart.ofText?_text, CallPart.ofText?_text, Option.some_inj] at hpart
    exact Prod.ext hkind (Prod.ext (String.toList_inj.mp hname) hpart)
  · intro h
    obtain ⟨hsame, hname⟩ := Rule.key_eq_iff.mp h
    rw [methodId, methodId, hsame.kind, hname, hsame.part]

/-- **Two rules for one call name their payloads alike**, and ask for one method. -/
theorem Rule.SameCall.names (h : r.SameCall r') :
    r.payloadTypeName = r'.payloadTypeName ∧ methodName r = methodName r' := by
  have hname := h.name
  unfold Rule.payloadTypeName methodName
  rw [← h.kind, ← h.part]
  cases hkind : r.event.kind with
  | track => rw [hname hkind]; exact ⟨rfl, rfl⟩
  | identify => exact ⟨rfl, rfl⟩
  | page => exact ⟨rfl, rfl⟩
  | screen => exact ⟨rfl, rfl⟩
  | group => exact ⟨rfl, rfl⟩

/-! ## §2 Rules in a model -/

/-- Whether the rule is for this part of calls of this kind. -/
def Rule.isFor (r : Rule) (kind : CallKind) (part : CallPart) : Bool :=
  r.event.kind == kind && r.part == part

theorem Rule.isFor_iff : r.isFor kind part = true ↔ r.event.kind = kind ∧ r.part = part := by
  simp [Rule.isFor]

namespace Schema

/-- **The rules for a part** of calls of one kind. -/
def rulesFor (s : Schema) (kind : CallKind) (part : CallPart) : List Rule :=
  s.rules.filter (·.isFor kind part)

/-- The types of payloads that fill the part. -/
def payloadTypesFor (s : Schema) (kind : CallKind) (part : CallPart) : List PropertyType :=
  (s.rulesFor kind part).filterMap (·.payload.type?)

/-- **No two rules describe one call.** -/
def CallsDiffer (s : Schema) : Prop :=
  s.rules.Pairwise fun r r' => ¬r.SameCall r'

/-- Then there is one rule for a part at most, if names do not tell such calls apart. -/
theorem CallsDiffer.length_rulesFor_le (h : s.CallsDiffer) (hkind : kind ≠ .track) :
    (s.rulesFor kind part).length ≤ 1 := by
  have hmem : ∀ r ∈ s.rulesFor kind part, r.event.kind = kind ∧ r.part = part := fun r hr =>
    Rule.isFor_iff.mp (List.mem_filter.mp hr).2
  have hdiffer : (s.rulesFor kind part).Pairwise fun r r' => ¬r.SameCall r' := h.filter _
  -- two of them would be next to each other and describe one call
  match hrules : s.rulesFor kind part with
  | [] => exact Nat.zero_le 1
  | [_] => exact Nat.le_refl 1
  | r :: r' :: rest =>
    rw [hrules] at hmem hdiffer
    obtain ⟨hr, hrpart⟩ := hmem r List.mem_cons_self
    obtain ⟨hr', hrpart'⟩ := hmem r' (List.mem_cons_of_mem r List.mem_cons_self)
    refine absurd ?_ (List.rel_of_pairwise_cons hdiffer List.mem_cons_self)
    exact ⟨hr.trans hr'.symm, hrpart.trans hrpart'.symm,
      fun htrack => absurd (hr.symm.trans htrack) hkind⟩

theorem length_payloadTypesFor_le :
    (s.payloadTypesFor kind part).length ≤ (s.rulesFor kind part).length :=
  List.length_filterMap_le _ _

/-- **Where the keys of rules differ, the rules describe different calls exactly if** those that
describe one call have one name. -/
theorem callsDiffer_iff_of_nodup (h : (s.rules.map Rule.key).Nodup) :
    s.CallsDiffer ↔
      ∀ r ∈ s.rules, ∀ r' ∈ s.rules, r.SameCall r' → r.event.name = r'.event.name := by
  have hkeys : s.rules.Pairwise fun r r' => r.key ≠ r'.key := List.pairwise_map.mp h
  constructor
  · intro hdiffer r hr r' hr'
    -- the order of the two does not matter, and a rule has its own name
    have : Std.Symm fun r r' : Rule => r.SameCall r' → r.event.name = r'.event.name :=
      ⟨fun _ _ himp hsame => (himp hsame.symm).symm⟩
    have hnames : s.rules.Pairwise fun r r' => r.SameCall r' → r.event.name = r'.event.name :=
      hdiffer.imp fun hne hsame => absurd hsame hne
    exact hnames.forall_of_forall (fun _ _ _ => rfl) hr hr'
  · intro hnames
    refine hkeys.imp_of_mem fun {r r'} hr hr' hkey hsame => hkey ?_
    exact Rule.key_eq_iff.mpr ⟨hsame, hnames r hr r' hr' hsame⟩

theorem keys_nodup_of_validate (hvalid : s.validate = .ok s) : (s.rules.map Rule.key).Nodup := by
  obtain ⟨hfaults, -⟩ := Schema.validate_eq_ok_iff.mp hvalid
  rw [Schema.faults, List.append_eq_nil_iff, List.append_eq_nil_iff] at hfaults
  exact distinctFrom_start.mp (duplicateRuleFaults_eq_nil_iff.mp hfaults.1.1)

end Schema

/-! ## §3 Methods -/

/-- The methods for a part of calls of one kind. -/
def Bindings.Wrapper.methodsFor (w : Wrapper) (kind : CallKind) (part : CallPart) : List Method :=
  w.methods.filter fun m => m.call == kind && m.part == part

/-- The rules of a part that its calls have, all of them or none. -/
theorem Schema.filter_isFor_valid : (s.rules.filter Rule.isValid).filter (·.isFor kind part) =
    if part.isValidFor kind then s.rulesFor kind part else [] := by
  have hvalid : ∀ r ∈ s.rulesFor kind part, r.isValid = part.isValidFor kind := by
    intro r hr
    obtain ⟨rfl, rfl⟩ := Rule.isFor_iff.mp (List.mem_filter.mp hr).2
    rfl
  rw [List.filter_comm]
  show (s.rulesFor kind part).filter Rule.isValid = _
  split
  · rename_i hpart
    exact List.filter_eq_self.mpr fun r hr => (hvalid r hr).trans hpart
  · rename_i hpart
    exact List.filter_eq_nil_iff.mpr fun r hr => by rwa [hvalid r hr]

/-- **There is a method for each rule for a part**, if such calls have the part. -/
theorem Bindings.Emit.RunSettled.length_methodsFor {o : Options} {R : Registry} {e : Emitted}
    (h : RunSettled o s R e) : (e.wrapper.methodsFor kind part).length =
      if part.isValidFor kind then (s.rulesFor kind part).length else 0 := by
  have hfor : ∀ r m, (method r).Settled R m →
      (r.isFor kind part = true ↔ (m.call == kind && m.part == part) = true) := by
    intro r m hm
    obtain ⟨name, -, argument, -, rfl⟩ := settled_method_iff.mp hm
    rfl
  -- rules without a method are left out first, so the two filters of rules change places
  have hmethods := List.rel_filter hfor h.wrapper.methods
  rw [Wrapper.methodsFor, ← hmethods.length_eq, Schema.filter_isFor_valid]
  exact apply_ite List.length _ _ _

/-! ## §4 Accepted models -/

/-- **In an accepted model two rules for one call differ by a name that tells nothing**: no track
call is described twice, and methods have different ids even where they ask for one name.  No two
rules describe one call exactly if those for one part of calls that no name tells apart are called
alike; then there is one type of payload and one method for such a part at most.  In any case there
are as many methods as rules for each part that its calls have. -/
theorem Schema.callsDiffer_iff (hvalid : s.validate = .ok s) :
    (s.rules.Pairwise fun r r' => methodId r ≠ methodId r' ∧
      (r.SameCall r' → r.event.kind ≠ .track ∧ r.event.name ≠ r'.event.name ∧
        r.payloadTypeName = r'.payloadTypeName ∧ methodName r = methodName r')) ∧
      (s.CallsDiffer ↔
        ∀ r ∈ s.rules, ∀ r' ∈ s.rules, r.SameCall r' → r.event.name = r'.event.name) ∧
      (s.CallsDiffer → ∀ kind part, kind ≠ .track →
        (s.payloadTypesFor kind part).length ≤ 1 ∧
          ∀ o e, emit o s = .ok e → (e.wrapper.methodsFor kind part).length ≤ 1) ∧
      ∀ o e, emit o s = .ok e → ∀ kind part, (e.wrapper.methodsFor kind part).length =
        if part.isValidFor kind then (s.rulesFor kind part).length else 0 := by
  have hkeys := Schema.keys_nodup_of_validate hvalid
  have hcount : ∀ o e, emit o s = .ok e → ∀ kind part, (e.wrapper.methodsFor kind part).length =
      if part.isValidFor kind then (s.rulesFor kind part).length else 0 := by
    intro o e he kind part
    obtain ⟨R, hrun⟩ := runSettled_of_emit he
    exact hrun.length_methodsFor
  refine ⟨?_, Schema.callsDiffer_iff_of_nodup hkeys, fun hdiffer kind part hkind => ?_, hcount⟩
  · refine (List.pairwise_map.mp hkeys).imp fun {r r'} hkey => ?_
    refine ⟨fun hid => hkey (methodId_eq_iff.mp hid), fun hsame => ?_⟩
    have hname : r.event.name ≠ r'.event.name := fun heq =>
      hkey (Rule.key_eq_iff.mpr ⟨hsame, heq⟩)
    exact ⟨fun htrack => hname (hsame.name htrack), hname, hsame.names⟩
  · have hrules : (s.rulesFor kind part).length ≤ 1 := hdiffer.length_rulesFor_le hkind
    refine ⟨Nat.le_trans Schema.length_payloadTypesFor_le hrules, fun o e he => ?_⟩
    rw [hcount o e he]
    split <;> omega

/-- A plan that identifies people by their address, once under each of the names. -/
def Document.identifies (names : List String) : Document where
  name := "people"
  metadata := .unknown
  customTypes := []
  properties := [("email", ⟨none, [.string], [], none⟩)]
  rules := names.map fun name =>
    ⟨⟨.identify, name, none⟩, .traits, ⟨[("email", ⟨true, none⟩)], false⟩, []⟩

/-- What is passed to identify someone. -/
def Document.identifiesTraits : PropertyType :=
  .record ⟨.event "identify traits", none,
    [⟨"email", .aliasType ⟨.property "email", none, .scalar .string⟩, true, none⟩]⟩

/-- The model of such a plan. -/
def Document.identifiesModel (names : List String) : Schema where
  name := "people"
  metadata := .unknown
  customTypes := []
  properties := [("email", .aliasType ⟨.property "email", none, .scalar .string⟩)]
  rules := names.map fun name => ⟨⟨.identify, name, none⟩, .traits, .typed identifiesTraits⟩

/-- Under one name it has one method, whatever the options are. -/
theorem Document.callsDiffer_identifies :
    (identifies ["User"]).toSchema = .ok (identifiesModel ["User"]) ∧
      (identifiesModel ["User"]).CallsDiffer ∧
      ∀ o e, emit o (identifiesModel ["User"]) = .ok e →
        (e.wrapper.methodsFor .identify .traits).length = 1 := by
  have haccepted : (identifies ["User"]).toSchema = .ok (identifiesModel ["User"]) := rfl
  have hvalid : (identifiesModel ["User"]).validate = .ok (identifiesModel ["User"]) := rfl
  obtain ⟨-, hdiffer, -, hcount⟩ := Schema.callsDiffer_iff hvalid
  refine ⟨haccepted, hdiffer.mpr fun r hr r' hr' _ => ?_, fun o e he => hcount o e he _ _⟩
  rw [List.mem_singleton.mp hr, List.mem_singleton.mp hr']

/-- Under two names it is accepted too, and has two methods. -/
theorem Document.not_callsDiffer_identifies :
    (identifies ["User", "Person"]).toSchema = .ok (identifiesModel ["User", "Person"]) ∧
      ¬(identifiesModel ["User", "Person"]).CallsDiffer ∧
      ((identifiesModel ["User", "Person"]).payloadTypesFor .identify .traits).length = 2 ∧
      ∃ e, emit {} (identifiesModel ["User", "Person"]) = .ok e ∧
        (e.wrapper.methodsFor .identify .traits).length = 2 := by
  refine ⟨rfl, fun hdiffer => ?_, rfl, ?_⟩
  · have hne := List.rel_of_pairwise_cons hdiffer List.mem_cons_self
    exact hne ⟨rfl, rfl, fun htrack => CallKind.noConfusion htrack⟩
  · obtain ⟨e, he⟩ : ∃ e, emit {} (identifiesModel ["User", "Person"]) = .ok e :=
      exists_emit_default (by decide +kernel)
    obtain ⟨R, hrun⟩ := runSettled_of_emit he
    exact ⟨e, he, hrun.length_methodsFor⟩

end TrackingPlan
