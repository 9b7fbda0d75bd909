import TrackingPlan.Proofs.Bindings.Agreement
import TrackingPlan.Proofs.Bindings.Failures

/-!
# In an accepted model every case fits its variant

Validation, the layouts and the declarations each look at the tag of a case, at the discriminator
and at the number of fields in their own way.  What validation accepts the other two take: there is
a layout for every record, enumeration and variant, and a variant is declared unless one of its
names is no identifier (`accepted_shapes_fit`).

§1 failures over names · §2 the tables · §3 accepted models.
-/

namespace TrackingPlan

open PropertyType (keyed? typeLayout? aliasLayout?)

/-! ## §1 Failures over names -/

namespace Bindings

/-- **A failure over a name**: it cannot be registered, or is no identifier. -/
def EmitError.IsNaming : EmitError → Prop
  | .notIdentifier _ => True
  | .rejected (.invalidName _) => True
  | .rejected _ => False

namespace Emit

/-- **The steps that ask for names** do no more than register them, outside the names of methods. -/
theorem leaves_of_register {I : Naming.Registry → Prop} {S : EmitError → Prop}
    (hS : ∀ e : EmitError, e.IsNaming → S e)
    (hregister : ∀ id scope name, scope ≠ methodScope → Within I S (register id scope name)) :
    Leaves I S (fun _ => True) (fun _ => True) (fun _ => True) where
  type name _ := by
    rw [typeIdentifier_eq]
    split
    · exact .reject (hS _ trivial)
    · exact (hregister _ _ _ (by decide)).bind fun _ => .identifier fun _ => hS _ trivial
  case name _ := .identifier fun _ => hS _ trivial
  field owner key _ := by
    have hscope : fieldScope owner ≠ methodScope := fun heq => by
      simpa [fieldScope, methodScope, String.toList_append] using congrArg String.toList heq
    exact (hregister _ _ _ hscope).bind fun _ => .identifier fun _ => hS _ trivial

/-- Whatever is registered, every step that asks for a name fails over it if at all. -/
theorem leaves_naming : Leaves (fun _ => True) EmitError.IsNaming (fun _ => True) (fun _ => True)
    (fun _ => True) := by
  refine leaves_of_register (fun _ => id) fun id scope name _ r _ => ?_
  refine ⟨fun e h => ?_, fun _ _ _ => trivial⟩
  obtain ⟨fault, -, rfl⟩ := fails_register_iff.mp h
  trivial

theorem asks_anything (t : PropertyType) :
    Asks (fun _ => True) (fun _ => True) (fun _ => True) t := by
  cases t with
  | scalar kind => trivial
  | array item => trivial
  | untyped kind => trivial
  | aliasType a => exact ⟨trivial, fun _ _ => trivial⟩
  | record r => exact ⟨trivial, fun _ _ => ⟨trivial, fun _ _ => trivial⟩⟩
  | enumeration e => exact ⟨trivial, fun _ _ => trivial⟩
  | variant v =>
    refine ⟨trivial, fun c _ => ?_⟩
    exact ⟨trivial, fun _ _ _ _ => trivial, fun _ _ _ => trivial,
      fun _ _ _ => ⟨trivial, fun _ _ => trivial⟩⟩

end Emit

end Bindings

/-! ## §2 The tables -/

/-- Whether the type is an alias. -/
def PropertyType.isAlias : PropertyType → Bool
  | .aliasType _ => true
  | _ => false

/-- What a pass over a list keeps, beside that for which it keeps something. -/
theorem forall₂_filterMap {α β : Type} {f : α → Option β} {p : α → Bool} {xs : List α}
    (h : ∀ x ∈ xs, (f x).isSome = p x) :
    List.Forall₂ (fun x y => f x = some y) (xs.filter p) (xs.filterMap f) := by
  induction xs with
  | nil => exact .nil
  | cons x rest ih =>
    have hx := h x List.mem_cons_self
    have ih := ih fun y hy => h y (List.mem_cons_of_mem x hy)
    cases hf : f x with
    | none =>
      rw [hf] at hx
      rw [List.filterMap_cons_none hf, List.filter_cons_of_neg (by simp [← hx])]
      exact ih
    | some y =>
      rw [hf] at hx
      rw [List.filterMap_cons_some hf, List.filter_cons_of_pos (by simp [← hx])]
      exact .cons hf ih

section Tables

variable {s : Schema}

/-- **Every listed type has its entry in exactly one table**, if there are layouts. -/
theorem keyed?_isSome {layouts : Layouts} (hlayouts : Layouts.ofSchema s = .ok layouts)
    {t : PropertyType} (ht : t ∈ s.namedTypes) :
    (keyed? typeLayout? t).isSome = !t.isAlias ∧ (keyed? aliasLayout? t).isSome = t.isAlias := by
  obtain ⟨name, hname⟩ := Option.ne_none_iff_exists'.mp (Bindings.name?_ne_none ht)
  have hid : t.id? = some name.id := by rw [PropertyType.id?, hname, Option.map_some]
  have hkeyed : ∀ {α : Type} (layout? : PropertyType → Option α),
      (keyed? layout? t).isSome = (layout? t).isSome := by
    intro α layout?
    rw [keyed?, hid, Option.bind_some, Option.isSome_map]
  rw [hkeyed, hkeyed]
  cases t with
  | scalar kind => cases hname
  | array item => cases hname
  | untyped kind => cases hname
  | aliasType a => exact ⟨rfl, rfl⟩
  | record r => exact ⟨rfl, rfl⟩
  | enumeration e => exact ⟨rfl, rfl⟩
  | variant v =>
    obtain ⟨cases, hcases⟩ := Layouts.exists_caseLayouts_of_ofSchema hlayouts ht
    refine ⟨?_, rfl⟩
    rw [typeLayout?, hcases]
    rfl

/-- The listed types of one sort, each beside its entry in the table of that sort. -/
theorem forall₂_entries {α : Type} {layout? : PropertyType → Option α} {p : PropertyType → Bool}
    (h : ∀ t ∈ s.namedTypes, (keyed? layout? t).isSome = p t) :
    List.Forall₂ (fun t entry => t.id? = some entry.1 ∧ layout? t = some entry.2)
      (s.namedTypes.filter p) (s.namedTypes.filterMap (keyed? layout?)) :=
  (forall₂_filterMap h).imp fun _ _ => PropertyType.keyed?_eq_some_iff.mp

theorem keys_entries_nodup {α : Type} (layout? : PropertyType → Option α) :
    (Entries.keys (s.namedTypes.filterMap (keyed? layout?))).Nodup :=
  (Schema.filterMap_id_namedTypes_nodup s).sublist (PropertyType.keys_entries_sublist layout? _)

end Tables

/-! ## §3 Accepted models -/

open Bindings Bindings.Emit

/-- **In an accepted model every case fits its variant.**  The layouts exist: one for each record,
enumeration and variant in the order in which they are listed, under different ids, and one entry
for each alias.  And whatever names are registered, the declaration of a listed variant fails over a
name if at all, never over the shape of a case. -/
theorem accepted_shapes_fit {s : Schema} (hvalid : s.validate = .ok s) :
    ∃ layouts, Layouts.ofSchema s = .ok layouts ∧
      List.Forall₂ (fun t entry => t.id? = some entry.1 ∧ typeLayout? t = some entry.2)
        (s.namedTypes.filter fun t => !t.isAlias) layouts.types ∧
      List.Forall₂ (fun t entry => t.id? = some entry.1 ∧ aliasLayout? t = some entry.2)
        (s.namedTypes.filter fun t => t.isAlias) layouts.aliases ∧
      layouts.types.keys.Nodup ∧ layouts.aliases.keys.Nodup ∧
      ∀ v, .variant v ∈ s.namedTypes → ∀ r e, (declareVariant v).Fails r e → e.IsNaming := by
  obtain ⟨hfaults, -⟩ := Schema.validate_eq_ok_iff.mp hvalid
  have hfaults : ∀ t ∈ s.namedTypes, t.faults = [] := fun t ht =>
    Schema.faults_of_mem_namedTypes hfaults ht
  have hlayouts := Layouts.ofSchema_eq hfaults
  refine ⟨s.layouts, hlayouts, ?_, ?_, keys_entries_nodup _, keys_entries_nodup _, ?_⟩
  · exact forall₂_entries fun t ht => (keyed?_isSome hlayouts ht).1
  · exact forall₂_entries fun t ht => (keyed?_isSome hlayouts ht).2
  · intro v hv r e he
    have hfits := (VariantType.faults_eq_nil_iff.mp (hfaults _ hv)).fits
    exact (declareVariant_within leaves_naming hfits (asks_anything _) r trivial).1 e he

/-- Sign-ups have a layout for the contact and one for the payload, and the contact is declared
unless a name forbids it. -/
theorem accepted_shapes_fit_signUps : ∃ layouts, Layouts.ofSchema signUps = .ok layouts ∧
    layouts.types.length = 2 ∧ layouts.aliases.length = 0 ∧
    ∀ r e, (declareVariant signUpContact).Fails r e → e.IsNaming := by
  obtain ⟨layouts, hlayouts, htypes, haliases, -, -, hdeclare⟩ := accepted_shapes_fit
    (s := signUps) (Schema.validate_eq_ok_iff.mpr ⟨rfl, rfl⟩)
  refine ⟨layouts, hlayouts, htypes.length_eq.symm, haliases.length_eq.symm, ?_⟩
  exact hdeclare signUpContact (.head _)

end TrackingPlan
