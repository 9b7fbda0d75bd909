import TrackingPlan.Naming.Registry
import TrackingPlan.Proofs.Text.Digits
import Mathlib.Data.List.Nodup

/-!
# The registry gives each name out once

Of the numbered candidates there is one more than names are taken, and they differ, so one of them
is free (`appendNumber_not_mem`).  A new id therefore gets a name that is not taken in its scope,
and the name begins with what was asked for (`Registry.register_new`).
-/

namespace TrackingPlan.Naming

/-! ## §1 Numbered names -/

theorem numbered_nodup (name : String) (count : Nat) : (numbered name count).Nodup := by
  refine List.Nodup.map (fun m n h => ?_) List.nodup_range
  have hnumber := toString_nat_injective ((String.append_right_inj name).mp h)
  omega

/-- **A name that keeps what was asked for**: nothing but digits was appended. -/
def Extends (name assigned : String) : Prop :=
  ∃ digits, assigned = name ++ digits ∧ ∀ c ∈ digits.toList, c.isDigit = true

theorem Extends.refl (name : String) : Extends name name :=
  ⟨"", String.append_empty.symm, fun _ h => absurd h List.not_mem_nil⟩

theorem extends_of_mem_numbered {name candidate : String} {count : Nat}
    (h : candidate ∈ numbered name count) : Extends name candidate := by
  obtain ⟨n, -, rfl⟩ := List.mem_map.mp h
  exact ⟨_, rfl, fun _ => isDigit_of_mem_toString⟩

theorem exists_free (name : String) (taken : List String) :
    ∃ candidate ∈ numbered name (taken.length + 1), candidate ∉ taken := by
  by_contra hall
  have hsub : numbered name (taken.length + 1) ⊆ taken := fun candidate hmem => by
    by_contra hfree
    exact hall ⟨candidate, hmem, hfree⟩
  have hle := (numbered_nodup name (taken.length + 1)).length_le_of_subset hsub
  rw [numbered, List.length_map, List.length_range] at hle
  omega

theorem find?_numbered (name : String) (taken : List String) :
    ∃ candidate, (numbered name (taken.length + 1)).find? (fun c => !taken.contains c) =
      some candidate := by
  obtain ⟨candidate, hmem, hfree⟩ := exists_free name taken
  exact Option.isSome_iff_exists.mp (List.find?_isSome.mpr ⟨candidate, hmem, by simpa using hfree⟩)

/-- **The number that is appended makes the name free.** -/
theorem appendNumber_not_mem (name : String) (taken : List String) :
    appendNumber name taken ∉ taken := by
  obtain ⟨candidate, hfind⟩ := find?_numbered name taken
  have hfree := List.find?_some hfind
  rw [appendNumber, hfind]
  simpa using hfree

theorem extends_appendNumber (name : String) (taken : List String) :
    Extends name (appendNumber name taken) := by
  obtain ⟨candidate, hfind⟩ := find?_numbered name taken
  rw [appendNumber, hfind]
  exact extends_of_mem_numbered (List.mem_of_find?_eq_some hfind)

/-! ## §2 Registration -/

namespace Registry

theorem choose_not_mem {r : Registry} (h : r.onCollision = appendNumber) (scope name : String) :
    r.choose scope name ∉ r.taken scope := by
  unfold choose
  by_cases htaken : name ∈ r.taken scope
  · rw [if_pos (by simpa using htaken), h]
    exact appendNumber_not_mem name (r.taken scope)
  · rw [if_neg (by simpa using htaken)]
    exact htaken

theorem extends_choose {r : Registry} (h : r.onCollision = appendNumber) (scope name : String) :
    Extends name (r.choose scope name) := by
  unfold choose
  by_cases htaken : name ∈ r.taken scope
  · rw [if_pos (by simpa using htaken), h]
    exact extends_appendNumber name (r.taken scope)
  · rw [if_neg (by simpa using htaken)]
    exact .refl name

/-- **A new id gets a free name** that begins with what it asks for. -/
theorem register_new {r r' : Registry} {id scope name assigned : String}
    (hcollision : r.onCollision = appendNumber) (hnew : ∀ e ∈ r.registrations, e.id ≠ id)
    (h : r.register id scope name = .ok (assigned, r')) :
    r' = { r with registrations := r.registrations ++ [⟨scope, id, assigned⟩] } ∧
      assigned ∉ r.taken scope ∧ name ≠ "" ∧ ∃ digits, assigned = name ++ digits := by
  have hget : r.get? id scope = none := by
    rw [get?, Option.map_eq_none_iff, List.find?_eq_none]
    intro e he
    simp [hnew e he]
  unfold register at h
  rw [hget] at h
  split at h
  · cases h
  · split at h
    · cases h
    · split at h
      · cases h
      · rename_i hname
        obtain ⟨rfl, rfl⟩ := Prod.mk.inj (Except.ok.inj h)
        obtain ⟨digits, hdigits, -⟩ := extends_choose hcollision scope name
        exact ⟨rfl, choose_not_mem hcollision scope name, by simpa using hname, digits, hdigits⟩

end Registry

end TrackingPlan.Naming
