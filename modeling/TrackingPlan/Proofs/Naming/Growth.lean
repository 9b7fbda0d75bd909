import TrackingPlan.Proofs.Naming.Registry
import Mathlib.Data.List.Pairwise

/-!
# A registry only grows

Registering puts a name at the end or changes nothing, so what is found once is found in every
registry that comes later (`Grows.get?_eq_some`), and asking again gives the same
(`register_again`).  A registry that appends numbers keeps the names of a scope apart
(`Sound.register`), so in one scope a name tells its id (`Sound.id_unique`).

§1 what registering does · §2 growth · §3 soundness.
-/

namespace TrackingPlan.Naming.Registry

variable {r r' r'' : Registry} {id scope name assigned : String}

/-! ## §1 What registering does -/

/-- **What a registration did**: it found the name of the id, or gave it a free one at the end. -/
inductive Registered (r : Registry) (id scope name : String) : String → Registry → Prop
  | found {assigned : String} : r.get? id scope = some assigned →
      Registered r id scope name assigned r
  | added : r.get? id scope = none → Registered r id scope name (r.choose scope name)
      { r with registrations := r.registrations ++ [⟨scope, id, r.choose scope name⟩] }

theorem register_eq_ok_iff : r.register id scope name = .ok (assigned, r') ↔
    (id ≠ "" ∧ scope ≠ "" ∧ name ≠ "") ∧ r.Registered id scope name assigned r' := by
  unfold register
  constructor
  · intro h
    split at h
    · cases h
    · split at h
      · cases h
      · split at h
        · cases h
        · rename_i hid hscope hname
          refine ⟨⟨by simpa using hid, by simpa using hscope, by simpa using hname⟩, ?_⟩
          cases hget : r.get? id scope with
          | some found =>
            simp only [hget] at h
            obtain ⟨rfl, rfl⟩ := Prod.mk.inj (Except.ok.inj h)
            exact .found hget
          | none =>
            simp only [hget] at h
            obtain ⟨rfl, rfl⟩ := Prod.mk.inj (Except.ok.inj h)
            exact .added hget
  · rintro ⟨⟨hid, hscope, hname⟩, h⟩
    simp only [String.isEmpty_iff, hid, hscope, hname, if_false]
    cases h with
    | found hget => simp only [hget]
    | added hget => simp only [hget]

/-- **A registration fails only on an empty text.** -/
theorem exists_register_eq_ok (r : Registry) (h : id ≠ "" ∧ scope ≠ "" ∧ name ≠ "") :
    ∃ result, r.register id scope name = .ok result := by
  cases hget : r.get? id scope with
  | some found => exact ⟨(found, r), register_eq_ok_iff.mpr ⟨h, .found hget⟩⟩
  | none => exact ⟨(_, _), register_eq_ok_iff.mpr ⟨h, .added hget⟩⟩

theorem get?_append_of_none {e : Registration} (h : r.get? id scope = none) :
    get? { r with registrations := r.registrations ++ [e] } id scope =
      if e.scope = scope ∧ e.id = id then some e.name else none := by
  rw [get?, Option.map_eq_none_iff] at h
  rw [get?, List.find?_append, h, Option.none_or]
  by_cases he : e.scope = scope ∧ e.id = id
  · simp [he]
  · have hbeq : (e.scope == scope && e.id == id) = false := by simpa using he
    simp [hbeq, he]

/-! ## §2 Growth -/

/-- **`r'` comes after `r`**: what `r` gave out stands first in it, and collisions are resolved the
same way. -/
structure Grows (r r' : Registry) : Prop where
  registrations : r.registrations <+: r'.registrations
  onCollision : r'.onCollision = r.onCollision

theorem Grows.refl (r : Registry) : r.Grows r :=
  ⟨List.prefix_refl _, rfl⟩

theorem Grows.trans (h : r.Grows r') (h' : r'.Grows r'') : r.Grows r'' :=
  ⟨h.registrations.trans h'.registrations, h'.onCollision.trans h.onCollision⟩

/-- Registries that come after one another are one. -/
theorem Grows.antisymm (h : r.Grows r') (h' : r'.Grows r) : r = r' := by
  have hregistrations := h.registrations.eq_of_length_le h'.registrations.length_le
  have hcollision := h'.onCollision
  cases r
  cases r'
  simp_all

/-- **A name that is found stays found.** -/
theorem Grows.get?_eq_some (h : r.Grows r') (hget : r.get? id scope = some assigned) :
    r'.get? id scope = some assigned := by
  obtain ⟨e, hfind, rfl⟩ := Option.map_eq_some_iff.mp hget
  obtain ⟨more, hmore⟩ := h.registrations
  rw [get?, ← hmore, List.find?_append, hfind, Option.some_or, Option.map_some]

theorem Registered.grows (h : r.Registered id scope name assigned r') : r.Grows r' := by
  cases h with
  | found _ => exact .refl r
  | added _ => exact ⟨List.prefix_append _ _, rfl⟩

/-- What a registration gave is found after it. -/
theorem Registered.get?_eq_some (h : r.Registered id scope name assigned r') :
    r'.get? id scope = some assigned := by
  cases h with
  | found hget => exact hget
  | added hget => rw [get?_append_of_none hget, if_pos ⟨rfl, rfl⟩]

/-- **Asking again, at any later time, gives the same and registers nothing.** -/
theorem register_again (h : r.register id scope name = .ok (assigned, r')) (hgrows : r'.Grows r'') :
    r''.register id scope name = .ok (assigned, r'') := by
  obtain ⟨hne, hregistered⟩ := register_eq_ok_iff.mp h
  exact register_eq_ok_iff.mpr ⟨hne, .found (hgrows.get?_eq_some hregistered.get?_eq_some)⟩

/-! ## §3 Soundness -/

/-- **A sound registry**: taken names are made free by a number, and two registrations of one scope
differ in their ids and in their names. -/
structure Sound (r : Registry) : Prop where
  onCollision : r.onCollision = appendNumber
  distinct : r.registrations.Pairwise fun e f => e.scope = f.scope → e.id ≠ f.id ∧ e.name ≠ f.name

theorem Sound.start : Sound {} :=
  ⟨rfl, .nil⟩

theorem Sound.register (hr : r.Sound) (h : r.Registered id scope name assigned r') : r'.Sound := by
  cases h with
  | found _ => exact hr
  | added hget =>
    have hnew : ∀ e ∈ r.registrations, e.scope = scope → e.id ≠ id := by
      intro e he hscope hid
      rw [get?, Option.map_eq_none_iff, List.find?_eq_none] at hget
      exact hget e he (by simp [hscope, hid])
    have hfree := choose_not_mem hr.onCollision scope name
    refine ⟨hr.onCollision, List.pairwise_append.mpr ⟨hr.distinct, List.pairwise_singleton _ _, ?_⟩⟩
    intro e he f hf hscope
    obtain rfl := List.mem_singleton.mp hf
    refine ⟨hnew e he hscope, fun hname => hfree ?_⟩
    -- the name that was chosen as free would be taken by `e`
    show r.choose scope name ∈ r.taken scope
    exact List.mem_map.mpr ⟨e, List.mem_filter.mpr ⟨he, by simpa using hscope⟩, hname⟩

/-- A name that is found stands in the registry, under its scope and id. -/
theorem mem_of_get? (h : r.get? id scope = some assigned) :
    ⟨scope, id, assigned⟩ ∈ r.registrations := by
  obtain ⟨e, hfind, rfl⟩ := Option.map_eq_some_iff.mp h
  have he : e.scope = scope ∧ e.id = id := by simpa using List.find?_some hfind
  obtain ⟨rfl, rfl⟩ := he
  exact List.mem_of_find?_eq_some hfind

/-- **In one scope a name belongs to one id.** -/
theorem Sound.id_unique (hr : r.Sound) {id' : String} (h : r.get? id scope = some name)
    (h' : r.get? id' scope = some name) : id = id' := by
  by_contra hne
  have hsymm : Std.Symm fun e f : Registration =>
      e.scope = f.scope → e.id ≠ f.id ∧ e.name ≠ f.name :=
    ⟨fun e f hef hscope => ⟨(hef hscope.symm).1.symm, (hef hscope.symm).2.symm⟩⟩
  have hapart := hr.distinct.forall (mem_of_get? h) (mem_of_get? h')
    (fun heq => hne (congrArg Registration.id heq))
  exact (hapart rfl).2 rfl

end TrackingPlan.Naming.Registry
