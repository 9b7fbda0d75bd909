import TrackingPlan.Bindings.File
import TrackingPlan.Proofs.Naming.Growth
import TrackingPlan.Proofs.Schema.Parts

/-!
# Emitting against settled names

What a step of emitting gives depends on the names registered before it, and so on the order of the
steps.  But it *settles*: run once more in any registry that comes later, it gives the same and
registers nothing (`Settles`).  So after the last step every step can be read against the one
registry `R` that was reached, as a computation that only looks names up (`Settled`), and two steps
that asked for one name, in either order, were given one identifier.

§1 what a step gives · §2 steps that settle · §3 reading steps against settled names ·
§4 identifiers.
-/

namespace TrackingPlan.Bindings.Emit

open Naming (Registry)

variable {α β : Type} {x : Emit α} {f : α → Emit β} {r r' r'' R : Registry} {a : α} {b : β}
  {e : EmitError}

/-! ## §1 What a step gives -/

/-- **What a step gives**, or why it fails, and the names after it. -/
def outcome (x : Emit α) (r : Registry) : Except EmitError α × Registry :=
  (x.run r).run

/-- The step gives `a`, and the names go from `r` to `r'`. -/
def Gives (x : Emit α) (r : Registry) (a : α) (r' : Registry) : Prop :=
  x.outcome r = (.ok a, r')

/-- The step fails when the names are `r`. -/
def Fails (x : Emit α) (r : Registry) (e : EmitError) : Prop :=
  (x.outcome r).1 = .error e

theorem outcome_bind (x : Emit α) (f : α → Emit β) (r : Registry) :
    (x >>= f).outcome r =
      match x.outcome r with
      | (.ok a, r') => (f a).outcome r'
      | (.error e, r') => (.error e, r') := by
  show ((ExceptT.run x >>= ExceptT.bindCont f) r).run = _
  unfold outcome
  cases h : (x.run r).run with
  | mk o r' =>
    show ExceptT.bindCont f (x.run r).run.1 (x.run r).run.2 = _
    rw [h]
    cases o <;> rfl

theorem gives_bind_iff :
    (x >>= f).Gives r b r'' ↔ ∃ a r', x.Gives r a r' ∧ (f a).Gives r' b r'' := by
  unfold Gives
  rw [outcome_bind]
  cases h : x.outcome r with
  | mk o r' => cases o <;> simp

theorem fails_bind_iff :
    (x >>= f).Fails r e ↔ x.Fails r e ∨ ∃ a r', x.Gives r a r' ∧ (f a).Fails r' e := by
  unfold Fails Gives
  rw [outcome_bind]
  cases h : x.outcome r with
  | mk o r' => cases o <;> simp

@[simp]
theorem gives_pure_iff {a' : α} : (pure a : Emit α).Gives r a' r' ↔ a = a' ∧ r = r' := by
  show ((.ok a : Except EmitError α), r) = (.ok a', r') ↔ _
  simp

@[simp]
theorem fails_pure_iff : (pure a : Emit α).Fails r e ↔ False := by
  show (Except.ok a : Except EmitError α) = .error e ↔ _
  simp

@[simp]
theorem gives_reject_iff {error : SchemaError} : (reject error : Emit α).Gives r a r' ↔ False := by
  show ((.error (.rejected error) : Except EmitError α), r) = (.ok a, r') ↔ _
  simp

@[simp]
theorem fails_reject_iff {error : SchemaError} :
    (reject error : Emit α).Fails r e ↔ e = .rejected error := by
  show (Except.error (EmitError.rejected error) : Except EmitError α) = .error e ↔ _
  simp [eq_comm]

@[simp]
theorem gives_identifier_iff {found : Option Identifier} {name : String} {i : Identifier} :
    (identifier found name).Gives r i r' ↔ found = some i ∧ r = r' := by
  cases found with
  | none =>
    show ((.error (.notIdentifier name) : Except EmitError Identifier), r) = (.ok i, r') ↔ _
    simp
  | some j => simp [identifier]

theorem fails_identifier_iff {found : Option Identifier} {name : String} :
    (identifier found name).Fails r e ↔ found = none ∧ e = .notIdentifier name := by
  cases found with
  | none =>
    show (Except.error (EmitError.notIdentifier name) : Except EmitError Identifier) = .error e ↔ _
    simp [eq_comm]
  | some j => simp [identifier]

@[simp]
theorem gives_accept_iff {result : Except SchemaError α} :
    (accept result).Gives r a r' ↔ result = .ok a ∧ r = r' := by
  cases result <;> simp [accept]

theorem outcome_register (id scope name : String) (r : Registry) :
    (register id scope name).outcome r =
      match r.register id scope name with
      | .ok (assigned, r') => (.ok assigned, r')
      | .error fault => (.error (.rejected (.invalidName fault)), r) := by
  have hget : (get : Emit Registry).outcome r = (.ok r, r) := rfl
  rw [register, outcome_bind, hget]
  dsimp only
  cases r.register id scope name <;> rfl

theorem gives_register_iff {id scope name assigned : String} :
    (register id scope name).Gives r assigned r' ↔
      r.register id scope name = .ok (assigned, r') := by
  unfold Gives
  rw [outcome_register]
  cases h : r.register id scope name with
  | error fault => simp
  | ok result => simp [Prod.ext_iff]

theorem fails_register_iff {id scope name : String} :
    (register id scope name).Fails r e ↔
      ∃ fault, r.register id scope name = .error fault ∧ e = .rejected (.invalidName fault) := by
  unfold Fails
  rw [outcome_register]
  cases h : r.register id scope name with
  | error fault => simp [eq_comm]
  | ok result => simp

/-! ## §2 Steps that settle -/

/-- **A step settles**: the names it leaves come after those it found and stay apart, and run once
more in any registry that comes later it gives the same and registers nothing. -/
structure Settles (x : Emit α) : Prop where
  grows : ∀ {r a r'}, x.Gives r a r' → r.Grows r'
  sound : ∀ {r a r'}, x.Gives r a r' → r.Sound → r'.Sound
  again : ∀ {r a r' R}, x.Gives r a r' → r'.Grows R → x.Gives R a R

namespace Settles

@[simp]
theorem pure (a : α) : (pure a : Emit α).Settles := by
  refine ⟨fun h => ?_, fun h hr => ?_, fun h _ => ?_⟩ <;> obtain ⟨rfl, rfl⟩ := gives_pure_iff.mp h
  · exact .refl _
  · exact hr
  · exact gives_pure_iff.mpr ⟨rfl, rfl⟩

@[simp]
theorem reject (error : SchemaError) : (reject error : Emit α).Settles :=
  ⟨fun h => (gives_reject_iff.mp h).elim, fun h => (gives_reject_iff.mp h).elim,
    fun h => (gives_reject_iff.mp h).elim⟩

@[simp]
theorem bind (hx : x.Settles) (hf : ∀ a, (f a).Settles) : (x >>= f).Settles := by
  refine ⟨fun h => ?_, fun h hr => ?_, fun h hgrows => ?_⟩ <;>
    obtain ⟨a, r₁, ha, hb⟩ := gives_bind_iff.mp h
  · exact (hx.grows ha).trans ((hf a).grows hb)
  · exact (hf a).sound hb (hx.sound ha hr)
  · have hlater := ((hf a).grows hb).trans hgrows
    exact gives_bind_iff.mpr ⟨a, _, hx.again ha hlater, (hf a).again hb hgrows⟩

@[simp]
theorem map (hx : x.Settles) (g : α → β) : (g <$> x).Settles := by
  rw [map_eq_pure_bind]
  exact hx.bind fun a => .pure (g a)

@[simp]
theorem identifier (found : Option Identifier) (name : String) :
    (identifier found name).Settles := by
  cases found with
  | none => exact ⟨fun h => by simp at h, fun h => by simp at h, fun h => by simp at h⟩
  | some i => exact .pure i

@[simp]
theorem accept (result : Except SchemaError α) : (accept result).Settles := by
  cases result with
  | error error => exact .reject error
  | ok a => exact .pure a

@[simp]
theorem mapM {step : α → Emit β} (hstep : ∀ a, (step a).Settles) (xs : List α) :
    (xs.mapM step).Settles := by
  induction xs with
  | nil => exact .pure []
  | cons a rest ih =>
    rw [List.mapM_cons]
    exact (hstep a).bind fun b => ih.bind fun bs => .pure (b :: bs)

@[simp]
theorem register (id scope name : String) : (register id scope name).Settles := by
  refine ⟨fun h => ?_, fun h hr => ?_, fun h hgrows => ?_⟩ <;> rw [gives_register_iff] at h
  · exact (Registry.register_eq_ok_iff.mp h).2.grows
  · exact hr.register (Registry.register_eq_ok_iff.mp h).2
  · exact gives_register_iff.mpr (Registry.register_again h hgrows)

end Settles

/-! ## §3 Reading steps against settled names -/

/-- **The names `R` settle the step as `a`**: it gives `a` and registers nothing. -/
def Settled (x : Emit α) (R : Registry) (a : α) : Prop :=
  x.Gives R a R

theorem Settles.settled (hx : x.Settles) (h : x.Gives r a r') (hgrows : r'.Grows R) :
    x.Settled R a :=
  hx.again h hgrows

/-- **Settled names say one thing.** -/
theorem Settled.unique {a' : α} (h : x.Settled R a) (h' : x.Settled R a') : a = a' := by
  have hsame : (Except.ok a, R) = (Except.ok a', R) := h.symm.trans h'
  simpa using hsame

@[simp]
theorem settled_pure_iff {a' : α} : (pure a : Emit α).Settled R a' ↔ a = a' := by
  simp [Settled]

@[simp]
theorem not_settled_reject {error : SchemaError} : ¬(reject error : Emit α).Settled R a := by
  simp [Settled]

@[simp]
theorem settled_identifier_iff {found : Option Identifier} {name : String} {i : Identifier} :
    (identifier found name).Settled R i ↔ found = some i := by
  simp [Settled]

/-- **Against settled names a step is its parts**, and no state passes between them. -/
@[simp]
theorem settled_bind_iff (hx : x.Settles) (hf : ∀ a, (f a).Settles) :
    (x >>= f).Settled R b ↔ ∃ a, x.Settled R a ∧ (f a).Settled R b := by
  constructor
  · intro h
    obtain ⟨a, r', ha, hb⟩ := gives_bind_iff.mp h
    -- the names between the two parts come after `R` and before it
    obtain rfl : R = r' := (hx.grows ha).antisymm ((hf a).grows hb)
    exact ⟨a, ha, hb⟩
  · rintro ⟨a, ha, hb⟩
    exact gives_bind_iff.mpr ⟨a, R, ha, hb⟩

@[simp]
theorem settled_map_iff (hx : x.Settles) {g : α → β} :
    (g <$> x).Settled R b ↔ ∃ a, x.Settled R a ∧ g a = b := by
  rw [map_eq_pure_bind, settled_bind_iff hx fun a => .pure (g a)]
  simp only [settled_pure_iff]

/-- One step for each element, in order: each is settled by itself. -/
theorem settled_mapM_iff {step : α → Emit β} (hstep : ∀ a, (step a).Settles) {xs : List α}
    {ys : List β} :
    (xs.mapM step).Settled R ys ↔ List.Forall₂ (fun a b => (step a).Settled R b) xs ys := by
  induction xs generalizing ys with
  | nil => simp [eq_comm]
  | cons a rest ih =>
    rw [List.mapM_cons, settled_bind_iff (hstep a)
      (fun b => (Settles.mapM hstep rest).bind fun bs => .pure (b :: bs))]
    simp only [settled_bind_iff (Settles.mapM hstep rest) (fun bs => .pure _), ih,
      settled_pure_iff, List.forall₂_cons_left_iff]
    constructor
    · rintro ⟨b, hb, bs, hbs, rfl⟩
      exact ⟨b, bs, hb, hbs, rfl⟩
    · rintro ⟨b, bs, hb, hbs, rfl⟩
      exact ⟨b, hb, bs, hbs, rfl⟩

theorem settled_register_iff {id scope name assigned : String} :
    (register id scope name).Settled R assigned ↔
      (id ≠ "" ∧ scope ≠ "" ∧ name ≠ "") ∧ R.get? id scope = some assigned := by
  unfold Settled
  rw [gives_register_iff, Registry.register_eq_ok_iff]
  refine and_congr_right fun _ => ⟨fun h => h.get?_eq_some, fun h => .found h⟩

/-! ## §4 Identifiers -/

/-- The text that a named type asks for as its identifier. -/
def typeText (name : TypeName) : String :=
  Naming.typeName name.origin.label name.name

theorem typeIdentifier_eq (name : TypeName) :
    typeIdentifier name = if (typeText name).isEmpty then
      reject (.invalidName ⟨name.name, .emptyIdentifier⟩)
    else reserveType name.id (typeText name) :=
  rfl

namespace Settles

@[simp]
theorem caseIdentifier (name : String) : (caseIdentifier name).Settles :=
  .identifier _ _

@[simp]
theorem reserveType (id name : String) : (reserveType id name).Settles :=
  (Settles.register id typeScope name).bind fun assigned => .identifier _ assigned

@[simp]
theorem typeIdentifier (name : TypeName) : (typeIdentifier name).Settles := by
  rw [typeIdentifier_eq]
  split
  · exact .reject _
  · exact .reserveType _ _

@[simp]
theorem fieldIdentifier (owner key : String) : (fieldIdentifier owner key).Settles :=
  (Settles.register key (fieldScope owner) _).bind fun assigned => .identifier _ assigned

@[simp]
theorem methodIdentifier (id name : String) : (methodIdentifier id name).Settles :=
  (Settles.register id methodScope _).bind fun assigned => .identifier _ assigned

@[simp]
theorem typeExpr (t : PropertyType) : (typeExpr t).Settles := by
  induction t using PropertyType.parts_induction with
  | step t ih =>
    cases t with
    | scalar kind => exact .pure _
    | untyped kind => exact .pure _
    | array item => exact (ih item (List.mem_singleton.mpr rfl)).bind fun _ => .pure _
    | enumeration e => exact (Settles.typeIdentifier e.name).bind fun _ => .pure _
    | record r => exact (Settles.typeIdentifier r.name).bind fun _ => .pure _
    | variant v => exact (Settles.typeIdentifier v.name).bind fun _ => .pure _
    | aliasType a => exact (Settles.typeIdentifier a.name).bind fun _ => .pure _

end Settles

theorem settled_reserveType_iff {id name : String} {i : Identifier} :
    (reserveType id name).Settled R i ↔ (id ≠ "" ∧ name ≠ "") ∧
      ∃ text, R.get? id typeScope = some text ∧ Identifier.ofText? text = some i := by
  have hscope : typeScope ≠ "" := by decide
  rw [reserveType, settled_bind_iff (Settles.register id typeScope name)
    (fun assigned => Settles.identifier _ assigned)]
  simp only [settled_register_iff, settled_identifier_iff]
  tauto

/-- **The identifier of a named type** is what was registered for its id. -/
theorem settled_typeIdentifier_iff {name : TypeName} {i : Identifier} :
    (typeIdentifier name).Settled R i ↔ typeText name ≠ "" ∧
      ∃ text, R.get? name.id typeScope = some text ∧ Identifier.ofText? text = some i := by
  rw [typeIdentifier_eq]
  split
  · rename_i hempty
    simp [String.isEmpty_iff.mp hempty]
  · rename_i hempty
    have hid : name.id ≠ "" := by simp [TypeName.id]
    rw [settled_reserveType_iff]
    simp_all

end TrackingPlan.Bindings.Emit
