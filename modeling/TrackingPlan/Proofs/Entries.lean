import TrackingPlan.Entries
import Mathlib.Data.List.Nodup

/-!
# Reading keyed values back

What `Entries.get?` finds after `Entries.insert`, and when it finds anything: a key that was not
there goes to the end, and a list that holds each key once gives back each of its entries.
-/

namespace TrackingPlan.Entries

variable {α : Type}

theorem get?_cons (k : String) (v : α) (rest : Entries α) (key : String) :
    Entries.get? ((k, v) :: rest) key = if k = key then some v else rest.get? key := by
  by_cases h : k = key
  · simp [get?, h]
  · simp [get?, h]

theorem get?_eq_none_iff {entries : Entries α} {key : String} :
    entries.get? key = none ↔ key ∉ entries.keys := by
  simp only [get?, Option.map_eq_none_iff, List.find?_eq_none, keys, List.mem_map, not_exists,
    not_and, beq_iff_eq]

theorem has_eq_true_iff {entries : Entries α} {key : String} :
    entries.has key = true ↔ key ∈ entries.keys := by
  simp [has, keys]

/-- A value that is found stands in the list under its key. -/
theorem mem_of_get? {entries : Entries α} {key : String} {value : α}
    (h : entries.get? key = some value) : (key, value) ∈ entries := by
  obtain ⟨⟨k, v⟩, hfind, rfl⟩ := Option.map_eq_some_iff.mp h
  have hkey : k = key := by simpa using List.find?_some hfind
  exact hkey ▸ List.mem_of_find?_eq_some hfind

theorem get?_isSome_iff {entries : Entries α} {key : String} :
    (entries.get? key).isSome = true ↔ key ∈ entries.keys := by
  rw [← not_iff_not, ← get?_eq_none_iff]
  simp

theorem has_eq_isSome (entries : Entries α) (key : String) :
    entries.has key = (entries.get? key).isSome := by
  rw [Bool.eq_iff_iff, has_eq_true_iff, get?_isSome_iff]

/-- **Each entry is found** in a list that holds each key once. -/
theorem get?_of_mem {entries : Entries α} (hkeys : entries.keys.Nodup) {key : String} {value : α}
    (h : (key, value) ∈ entries) : entries.get? key = some value := by
  induction entries with
  | nil => exact absurd h List.not_mem_nil
  | cons e rest ih =>
    obtain ⟨k, v⟩ := e
    obtain ⟨hfresh, hrest⟩ := List.nodup_cons.mp hkeys
    rw [get?_cons]
    rcases List.mem_cons.mp h with heq | hmem
    · obtain ⟨rfl, rfl⟩ := Prod.mk.inj heq
      simp
    · have hne : k ≠ key := by
        rintro rfl
        exact hfresh (List.mem_map.mpr ⟨(k, value), hmem, rfl⟩)
      rw [if_neg hne]
      exact ih hrest hmem

/-- What is found does not depend on the order of entries, where each key is held once. -/
theorem get?_eq_of_perm {entries others : Entries α} (h : entries.Perm others)
    (hkeys : entries.keys.Nodup) (key : String) : entries.get? key = others.get? key := by
  have hkeys' : others.keys.Nodup := (h.map Prod.fst).nodup hkeys
  cases hv : others.get? key with
  | some value => exact get?_of_mem hkeys (h.mem_iff.mpr (mem_of_get? hv))
  | none =>
    rw [get?_eq_none_iff] at hv ⊢
    intro hmem
    exact hv ((h.map Prod.fst).mem_iff.mp hmem)

/-- More entries do not hide what is found. -/
theorem get?_append_of_some {entries : Entries α} {key : String} {value : α}
    (h : entries.get? key = some value) (more : Entries α) :
    Entries.get? (entries ++ more) key = some value := by
  obtain ⟨e, he, rfl⟩ := Option.map_eq_some_iff.mp h
  rw [get?, List.find?_append, he, Option.some_or, Option.map_some]

/-- Entries left out by their keys are not found, and all others are. -/
theorem get?_filter (entries : Entries α) (p : String → Bool) (key : String) :
    Entries.get? (entries.filter fun e => p e.1) key =
      if p key = true then entries.get? key else none := by
  induction entries with
  | nil => simp [get?]
  | cons e rest ih =>
    obtain ⟨k, v⟩ := e
    rw [List.filter_cons, get?_cons]
    by_cases hk : k = key
    · subst hk
      by_cases hp : p k = true
      · simp [hp, get?_cons]
      · rw [if_neg hp, ih, if_neg hp, if_neg hp]
    · by_cases hp : p k = true
      · rw [if_pos hp, get?_cons, if_neg hk, if_neg hk, ih]
      · rw [if_neg hp, if_neg hk, ih]

/-- Writing one key leaves the others as they are. -/
theorem get?_insert_of_ne (entries : Entries α) {k key : String} (value : α) (h : k ≠ key) :
    (entries.insert k value).get? key = entries.get? key := by
  induction entries with
  | nil => simp [insert, get?, h]
  | cons e rest ih =>
    obtain ⟨j, v⟩ := e
    by_cases hj : j = k
    · subst hj
      simp only [insert, beq_self_eq_true, if_true, get?_cons, if_neg h]
    · have hj' : (j == k) = false := by simpa using hj
      simp only [insert, hj', Bool.false_eq_true, if_false, get?_cons, ih]

theorem get?_insert (entries : Entries α) (k key : String) (value : α) :
    (entries.insert k value).get? key = if k = key then some value else entries.get? key := by
  by_cases h : k = key
  · rw [if_pos h, ← h, get?_insert_self]
  · rw [if_neg h, get?_insert_of_ne entries value h]

/-- What is found after writing one key is what was written, or was there before. -/
theorem of_get?_insert {entries : Entries α} {k key : String} {v value : α}
    (h : (entries.insert k v).get? key = some value) :
    (k = key ∧ v = value) ∨ entries.get? key = some value := by
  rw [get?_insert] at h
  by_cases hk : k = key
  · rw [if_pos hk] at h
    exact .inl ⟨hk, Option.some.inj h⟩
  · rw [if_neg hk] at h
    exact .inr h

/-- Writing a new key loses nothing. -/
theorem get?_insert_of_new {entries : Entries α} {k key : String} {v value : α}
    (hnew : entries.get? k = none) (h : entries.get? key = some value) :
    (entries.insert k v).get? key = some value := by
  have hne : k ≠ key := by
    rintro rfl
    cases hnew.symm.trans h
  rw [get?_insert_of_ne entries v hne, h]

/-- **A key that is not there goes to the end.** -/
theorem insert_of_not_mem {entries : Entries α} {key : String} (value : α)
    (h : key ∉ entries.keys) : entries.insert key value = entries ++ [(key, value)] := by
  induction entries with
  | nil => rfl
  | cons e rest ih =>
    obtain ⟨k, v⟩ := e
    have hne : k ≠ key := fun heq => h (by simp [keys, heq])
    have hrest : key ∉ Entries.keys rest := fun hmem => h (List.mem_cons_of_mem k hmem)
    have hne' : (k == key) = false := by simpa using hne
    simp only [insert, hne', Bool.false_eq_true, if_false, ih hrest, List.cons_append]

theorem keys_append (entries more : Entries α) :
    Entries.keys (entries ++ more) = entries.keys ++ more.keys :=
  List.map_append

/-- Writing a key that is there keeps the keys. -/
theorem keys_insert_of_mem {entries : Entries α} {key : String} (value : α)
    (h : key ∈ entries.keys) : (entries.insert key value).keys = entries.keys := by
  induction entries with
  | nil => exact absurd h List.not_mem_nil
  | cons e rest ih =>
    obtain ⟨k, v⟩ := e
    by_cases hk : k = key
    · subst hk
      simp only [insert, beq_self_eq_true, if_true]
      rfl
    · have hk' : (k == key) = false := by simpa using hk
      have hrest : key ∈ Entries.keys rest := (List.mem_cons.mp h).resolve_left (Ne.symm hk)
      simp only [insert, hk', Bool.false_eq_true, if_false]
      exact congrArg (k :: ·) (ih hrest)

theorem nodup_keys_insert {entries : Entries α} (h : entries.keys.Nodup) (key : String)
    (value : α) : (entries.insert key value).keys.Nodup := by
  by_cases hmem : key ∈ entries.keys
  · rw [keys_insert_of_mem value hmem]
    exact h
  · have hkeys : (entries.insert key value).keys = entries.keys.concat key := by
      rw [insert_of_not_mem value hmem, keys_append, List.concat_eq_append]
      rfl
    rw [hkeys]
    exact h.concat hmem

theorem mem_of_mem_insert {entries : Entries α} {key : String} {value : α} {e : String × α}
    (h : e ∈ entries.insert key value) : e = (key, value) ∨ e ∈ entries := by
  induction entries with
  | nil => exact .inl (List.mem_singleton.mp h)
  | cons head rest ih =>
    obtain ⟨k, v⟩ := head
    rw [insert] at h
    split at h
    · rename_i hk
      obtain rfl : k = key := by simpa using hk
      exact (List.mem_cons.mp h).imp id (List.mem_cons_of_mem _)
    · rcases List.mem_cons.mp h with heq | hmem
      · exact .inr (heq ▸ List.mem_cons_self)
      · exact (ih hmem).imp id (List.mem_cons_of_mem _)

/-- **A list of entries settles repeated keys**: each key is held once, with a value from the
list. -/
theorem ofList_spec (entries : List (String × α)) :
    (ofList entries).keys.Nodup ∧ ∀ e ∈ ofList entries, e ∈ entries := by
  have hfold : ∀ (rest : List (String × α)) (acc : Entries α), acc.keys.Nodup →
      (rest.foldl (fun acc e => acc.insert e.1 e.2) acc).keys.Nodup ∧
        ∀ e ∈ rest.foldl (fun acc e => acc.insert e.1 e.2) acc, e ∈ acc ∨ e ∈ rest := by
    intro rest
    induction rest with
    | nil => exact fun acc hacc => ⟨hacc, fun e he => .inl he⟩
    | cons head rest ih =>
      intro acc hacc
      obtain ⟨hnodup, hmem⟩ := ih (acc.insert head.1 head.2) (nodup_keys_insert hacc _ _)
      refine ⟨hnodup, fun e he => ?_⟩
      rcases hmem e he with hinsert | hrest
      · rcases mem_of_mem_insert hinsert with rfl | hold
        · exact .inr List.mem_cons_self
        · exact .inl hold
      · exact .inr (List.mem_cons_of_mem head hrest)
  obtain ⟨hnodup, hmem⟩ := hfold entries [] List.nodup_nil
  exact ⟨hnodup, fun e he => (hmem e he).resolve_left List.not_mem_nil⟩

/-- **A list that holds each key once is settled already.** -/
theorem ofList_eq_self {entries : Entries α} (h : entries.keys.Nodup) :
    ofList entries = entries := by
  have hfold : ∀ (rest acc : Entries α), (Entries.keys (acc ++ rest)).Nodup →
      rest.foldl (fun acc e => acc.insert e.1 e.2) acc = acc ++ rest := by
    intro rest
    induction rest with
    | nil => exact fun acc _ => (List.append_nil acc).symm
    | cons head rest ih =>
      intro acc hnodup
      have hnew : head.1 ∉ acc.keys := by
        intro hmem
        rw [keys_append] at hnodup
        exact List.disjoint_of_nodup_append hnodup hmem List.mem_cons_self
      rw [List.foldl_cons, insert_of_not_mem head.2 hnew, ih, List.append_assoc]
      · rfl
      · rwa [List.append_assoc]
  exact hfold entries [] h

end TrackingPlan.Entries
