import TrackingPlan.Schema.TypeName

/-!
# Ids tell names apart

The key of an origin has no colon, so the first colon of an id ends it: the origin and the name can
both be read back.
-/

namespace TrackingPlan

theorem TypeOrigin.key_injective {o p : TypeOrigin} (h : o.key = p.key) : o = p := by
  cases o <;> cases p <;> first | rfl | exact absurd h (by decide)

theorem TypeOrigin.colon_not_mem_key (o : TypeOrigin) : ':' ∉ o.key.toList := by
  cases o <;> decide

/-- What stands before the first colon is told apart from what stands after it. -/
theorem append_colon_inj {s t u v : List Char} (hs : ':' ∉ s) (ht : ':' ∉ t)
    (h : s ++ ':' :: u = t ++ ':' :: v) : s = t ∧ u = v := by
  induction s generalizing t with
  | nil =>
    cases t with
    | nil => exact ⟨rfl, (List.cons.inj h).2⟩
    | cons d t => exact absurd (List.cons.inj h).1 fun hd => ht (hd ▸ List.mem_cons_self)
  | cons c s ih =>
    cases t with
    | nil => exact absurd (List.cons.inj h).1 fun hc => hs (hc ▸ List.mem_cons_self)
    | cons d t =>
      obtain ⟨rfl, hrest⟩ := List.cons.inj h
      obtain ⟨rfl, rfl⟩ := ih (fun hmem => hs (List.mem_cons_of_mem c hmem))
        (fun hmem => ht (List.mem_cons_of_mem c hmem)) hrest
      exact ⟨rfl, rfl⟩

/-- So is what stands after the last colon from what stands before it. -/
theorem append_colon_inj_last {s t u v : List Char} (hu : ':' ∉ u) (hv : ':' ∉ v)
    (h : s ++ ':' :: u = t ++ ':' :: v) : s = t ∧ u = v := by
  have hreverse : u.reverse ++ ':' :: s.reverse = v.reverse ++ ':' :: t.reverse := by
    simpa using congrArg List.reverse h
  obtain ⟨hlast, hfirst⟩ := append_colon_inj (by simpa using hu) (by simpa using hv) hreverse
  exact ⟨List.reverse_inj.mp hfirst, List.reverse_inj.mp hlast⟩

/-- **An id tells its type name.** -/
theorem TypeName.id_injective {n m : TypeName} (h : n.id = m.id) : n = m := by
  have hlist : n.origin.key.toList ++ ':' :: n.name.toList =
      m.origin.key.toList ++ ':' :: m.name.toList := by
    simpa [TypeName.id, String.toList_append] using congrArg String.toList h
  obtain ⟨hkey, hname⟩ :=
    append_colon_inj n.origin.colon_not_mem_key m.origin.colon_not_mem_key hlist
  obtain ⟨origin, name⟩ := n
  obtain ⟨origin', name'⟩ := m
  obtain rfl := TypeOrigin.key_injective (String.toList_inj.mp hkey)
  obtain rfl := String.toList_inj.mp hname
  rfl

end TrackingPlan
