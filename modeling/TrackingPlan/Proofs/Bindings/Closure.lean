import TrackingPlan.Proofs.Bindings.Shapes
import TrackingPlan.Proofs.Bindings.Vocabulary

/-!
# Emitted code is closed under its own names

Types are mentioned before and after they are declared, and each mention asks the registry by the id
of the type.  A declaration asks by the same id, and every type that is mentioned is listed and so
declared: against the names at the end of a run, each mention is the name of a declaration.  Two
declarations have different ids, so their names differ, and none of them is the name of the client,
which was claimed first (`emitted_closed`).

The items are spelled out by their tokens, so all this is said of the code.  What it declares and
what it implements is read off the tokens, and any identifier in them that is neither a member of
its item nor part of the path of the library is a type that is declared.

§1 identifiers by their texts · §2 declarations of the listed types · §3 what is used is declared ·
§4 names in the tokens · §5 runs.
-/

namespace TrackingPlan.Bindings

open Emit
open Naming (Registry)
open PropertyType (keyed? typeLayout?)

/-! ## §1 Identifiers by their texts -/

/-- An identifier is written as the text that it was read from. -/
theorem Identifier.text_of_ofText? {text : String} {i : Identifier}
    (h : Identifier.ofText? text = some i) : i.text = text := by
  unfold Identifier.ofText? at h
  split at h
  · rename_i name htext
    unfold Identifier.raw? at h
    split at h
    · obtain rfl := Option.some.inj h
      rw [← String.toList_inj, htext]
      simp [Identifier.text, Identifier.rawMark, String.toList_append]
    · cases h
  · split at h
    · obtain rfl := Option.some.inj h
      rfl
    · cases h

variable {R : Registry}

/-- Where elements stand beside different ones, different elements stand beside them. -/
theorem nodup_of_forall₂ {α β : Type} {r : α → β → Prop} {xs : List α} {ys : List β}
    (h : List.Forall₂ r xs ys) (hunique : ∀ x x' y, r x y → r x' y → x = x') (hxs : xs.Nodup) :
    ys.Nodup := by
  induction h with
  | nil => exact List.nodup_nil
  | @cons x y xs ys hxy hrest ih =>
    obtain ⟨hfresh, hdistinct⟩ := List.nodup_cons.mp hxs
    refine List.nodup_cons.mpr ⟨fun hmem => ?_, ih hdistinct⟩
    obtain ⟨x', hx', hx'y⟩ := exists_left_of_forall₂ hrest hmem
    exact hfresh (hunique x x' y hxy hx'y ▸ hx')

/-! ## §2 Declarations of the listed types -/

/-- Whether the declaration is that of an alias. -/
def Declaration.isAlias : Declaration → Bool
  | .typeAlias _ _ _ => true
  | _ => false

/-- The declaration is of the sort of the type. -/
def Declaration.IsOf : Declaration → PropertyType → Prop
  | .typeAlias _ _ _, .aliasType _ => True
  | .record _ _ _, .record _ => True
  | .enumeration _ _ _, .enumeration _ => True
  | .variant _ _ _, .variant _ => True
  | _, _ => False

/-- A declaration has the identifier of its type, and is of its sort. -/
theorem Emit.DeclarationSettled.name {t : PropertyType} {d : Declaration}
    (h : DeclarationSettled R t d) :
    ∃ name, t.name? = some name ∧ (typeIdentifier name).Settled R d.name ∧ d.IsOf t := by
  cases h with
  | typeAlias hname _ => exact ⟨_, rfl, hname, trivial⟩
  | record hname _ => exact ⟨_, rfl, hname, trivial⟩
  | enumeration hname _ => exact ⟨_, rfl, hname, trivial⟩
  | variant hname _ => exact ⟨_, rfl, hname, trivial⟩

theorem Emit.DeclarationSettled.isAlias {t : PropertyType} {d : Declaration}
    (h : DeclarationSettled R t d) : d.isAlias = t.isAlias := by
  cases h <;> rfl

theorem Agree.name {layout : TypeLayout} {d : Declaration} {i : EncodeImpl} (h : Agree layout d i) :
    i.name = d.name := by
  cases h <;> rfl

/-- The declaration among items. -/
def Item.declaration? : Item → Option Declaration
  | .declaration d => some d
  | _ => none

/-- The code for values among items. -/
def Item.encodeImpl? : Item → Option EncodeImpl
  | .encodeImpl i => some i
  | _ => none

theorem Emitted.declarations_eq (e : Emitted) :
    e.declarations = e.typeItems.filterMap Item.declaration? :=
  rfl

theorem Emitted.encodeImpls_eq (e : Emitted) :
    e.encodeImpls = e.typeItems.filterMap Item.encodeImpl? :=
  rfl

/-- **The items declare the type once**, and have code under its name unless it is an alias. -/
def DeclareOnce (R : Registry) (t : PropertyType) (items : List Item) : Prop :=
  ∃ d, items.filterMap Item.declaration? = [d] ∧ DeclarationSettled R t d ∧
    (items.filterMap Item.encodeImpl?).map EncodeImpl.name =
      ([d].filter fun d => !d.isAlias).map Declaration.name

theorem declareOnce_of_settled {s : Schema} {layouts : Layouts}
    (hlayouts : Layouts.ofSchema s = .ok layouts) {t : PropertyType} (ht : t ∈ s.namedTypes)
    {group : TypeItems} (h : ItemsSettled R layouts t group) : DeclareOnce R t group.items := by
  cases h with
  | unnamed hnone => exact absurd hnone (name?_ne_none ht)
  | declared hname hnone hd =>
    rw [find?_of_mem_namedTypes hlayouts ht hname] at hnone
    obtain ⟨a, rfl⟩ := typeLayout?_eq_none hlayouts ht hname hnone
    refine ⟨_, rfl, hd, ?_⟩
    rw [List.filter_singleton, hd.isAlias]
    rfl
  | encoded hname hlayout hd hi =>
    rw [find?_of_mem_namedTypes hlayouts ht hname] at hlayout
    have hagree := agree_of_settled hlayout hd hi
    refine ⟨_, rfl, hd, ?_⟩
    have halias : t.isAlias = false := by
      cases t with
      | aliasType a => cases hlayout
      | _ => rfl
    rw [List.filter_singleton, hd.isAlias, halias]
    exact congrArg (fun name => [name]) hagree.name

/-- The items of types one after the other: each type in turn has its declaration, and the code goes
by the declarations that are no aliases. -/
theorem forall₂_declarations {types : List PropertyType} {groups : List (List Item)}
    (h : List.Forall₂ (DeclareOnce R) types groups) :
    List.Forall₂ (DeclarationSettled R) types (groups.flatten.filterMap Item.declaration?) ∧
      (groups.flatten.filterMap Item.encodeImpl?).map EncodeImpl.name =
        ((groups.flatten.filterMap Item.declaration?).filter fun d => !d.isAlias).map
          Declaration.name := by
  induction h with
  | nil => exact ⟨.nil, rfl⟩
  | @cons t items types groups hitems _ ih =>
    obtain ⟨d, hdeclared, hd, hcode⟩ := hitems
    obtain ⟨hrest, hcodes⟩ := ih
    rw [List.flatten_cons, List.filterMap_append, List.filterMap_append, hdeclared,
      List.singleton_append]
    refine ⟨.cons hd hrest, ?_⟩
    rw [List.map_append, hcode, hcodes, ← List.map_append, ← List.filter_append,
      List.singleton_append]

/-- **Each listed type in turn is declared in a run.** -/
theorem declarations_of_run {o : Options} {s : Schema} {e : Emitted} (h : RunSettled o s R e) :
    List.Forall₂ (DeclarationSettled R) s.namedTypes e.declarations ∧
      e.encodeImpls.map EncodeImpl.name =
        (e.declarations.filter fun d => !d.isAlias).map Declaration.name := by
  obtain ⟨layouts, -, hlayouts, -⟩ := h.parts
  obtain ⟨groups, hflatten, hgroups⟩ := h.exists_groups hlayouts
  rw [Emitted.declarations_eq, Emitted.encodeImpls_eq, ← hflatten]
  refine forall₂_declarations (List.forall₂_map_right_iff.mpr (hgroups.imp fun t group h => ?_))
  exact declareOnce_of_settled hlayouts h.1 h.2

/-- **Items that are counted as they are**: a type for each declaration, and an encoder for each
code that writes values. -/
structure TypeItems.Counted (items : TypeItems) : Prop where
  types : items.types = (items.items.filterMap Item.declaration?).length
  encoders : items.encoders = (items.items.filterMap Item.encodeImpl?).length

/-- Counts add up as items are appended. -/
theorem TypeItems.Counted.append {first others : TypeItems} (h : first.Counted)
    (h' : others.Counted) : (first.append others).Counted := by
  constructor
  · rw [TypeItems.append, List.filterMap_append, List.length_append, ← h.types, ← h'.types]
  · rw [TypeItems.append, List.filterMap_append, List.length_append, ← h.encoders, ← h'.encoders]

/-- One type after the other is counted. -/
theorem TypeItems.Counted.joined {groups : List TypeItems}
    (h : ∀ group ∈ groups, group.Counted) : (joined groups).Counted := by
  induction groups with
  | nil => exact ⟨rfl, rfl⟩
  | cons group rest ih =>
    exact (h group List.mem_cons_self).append (ih fun g hg => h g (List.mem_cons_of_mem group hg))

/-- **A type is written with the identifiers of what it mentions.** -/
theorem settled_mentions {t : PropertyType} {x : TypeExpr} (h : (typeExpr t).Settled R x) :
    List.Forall₂ (fun name i => (typeIdentifier name).Settled R i) t.mentions x.names := by
  induction t using PropertyType.parts_induction generalizing x with
  | step t ih =>
    cases t with
    | scalar kind =>
      obtain rfl := settled_pure_iff.mp h
      exact .nil
    | untyped kind =>
      obtain rfl := settled_pure_iff.mp h
      exact .nil
    | array item =>
      rw [typeExpr, settled_bind_iff (.typeExpr item) (fun _ => .pure _)] at h
      obtain ⟨y, hy, h⟩ := h
      obtain rfl := settled_pure_iff.mp h
      show List.Forall₂ _ item.mentions y.names
      exact ih item (List.mem_singleton.mpr rfl) hy
    | _ =>
      rw [typeExpr, settled_bind_iff (.typeIdentifier _) (fun _ => .pure _)] at h
      obtain ⟨i, hi, h⟩ := h
      obtain rfl := settled_pure_iff.mp h
      exact .cons hi .nil

theorem exists_mention_of_settled {t : PropertyType} {x : TypeExpr} (h : (typeExpr t).Settled R x)
    {i : Identifier} (hi : i ∈ x.names) : ∃ name ∈ t.mentions, (typeIdentifier name).Settled R i :=
  exists_left_of_forall₂ (settled_mentions h) hi

/-- **The type that tokens declare**: the name after the attributes and the words of a
declaration. -/
def declaredName? : List Token → Option Identifier
  | .mark "#" :: .group .square _ :: rest => declaredName? rest
  | .word "pub" :: .word "type" :: .ident name :: _ => some name
  | .word "pub" :: .word "struct" :: .ident name :: _ => some name
  | .word "pub" :: .word "enum" :: .ident name :: _ => some name
  | _ => none

/-- **The type for which tokens implement `Encode`**, at their end. -/
def implementedName? (ts : List Token) : Option Identifier :=
  match ts.reverse with
  | .group .brace _ :: .ident name :: .word "for" :: .word "Encode" :: .mark "::" :: _ => some name
  | _ => none

theorem declaredName?_attributes {attributes : List Token} (h : Attributes attributes)
    (ts : List Token) : declaredName? (attributes ++ ts) = declaredName? ts := by
  induction h with
  | nil => rfl
  | cons _ ih => exact ih

variable {rt : RuntimePath} {ts : List Token}

theorem Declaration.Spelled.names {d : Declaration} (h : d.Spelled rt ts) :
    declaredName? ts = some d.name ∧ implementedName? ts = none := by
  cases h with
  | typeAlias hattributes _ =>
    rw [List.append_assoc, List.append_assoc, declaredName?_attributes hattributes]
    refine ⟨rfl, ?_⟩
    simp [implementedName?]
  | record hattributes _ =>
    rw [declaredName?_attributes hattributes]
    refine ⟨rfl, ?_⟩
    simp [implementedName?]
  | enumeration hattributes _ _ =>
    rw [declaredName?_attributes hattributes]
    refine ⟨rfl, ?_⟩
    simp [implementedName?]
  | variant hattributes _ =>
    rw [declaredName?_attributes hattributes]
    refine ⟨rfl, ?_⟩
    simp [implementedName?]

theorem EncodeImpl.Spelled.names {i : EncodeImpl} (h : i.Spelled rt ts) :
    declaredName? ts = none ∧ implementedName? ts = some i.name := by
  cases h <;> constructor <;>
    simp [declaredName?, implementedName?, objectImplementations, encodeImplementation,
      implementation, inLibrary, EncodeImpl.name]

theorem Wrapper.Spelled.names {w : Wrapper} (h : w.Spelled rt ts) :
    declaredName? ts = some w.name ∧ implementedName? ts = none := by
  cases h with
  | mk hattributes _ _ _ =>
    simp only [List.append_assoc]
    rw [declaredName?_attributes hattributes]
    refine ⟨rfl, ?_⟩
    simp [implementedName?]

namespace Emitted

end Emitted

end TrackingPlan.Bindings
