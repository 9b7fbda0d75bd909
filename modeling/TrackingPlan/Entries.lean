/-!
# Entries — keyed values in the order they were written

A map whose order shows: a list of keys with their values.  Writing a key again keeps its place and
changes its value, so a list built by `insert` alone holds each key once.
-/

namespace TrackingPlan

/-- **Keyed values in order.** -/
abbrev Entries (α : Type) := List (String × α)

namespace Entries

variable {α : Type}

/-- The value at a key: that of the first entry that has it. -/
def get? (entries : Entries α) (key : String) : Option α :=
  (entries.find? (·.1 == key)).map (·.2)

/-- Whether an entry has the key. -/
def has (entries : Entries α) (key : String) : Bool :=
  entries.any (·.1 == key)

/-- The keys in order. -/
def keys (entries : Entries α) : List String :=
  entries.map (·.1)

/-- Sets the value at a key: in its place if the key is there, and else at the end. -/
def insert : Entries α → String → α → Entries α
  | [], key, value => [(key, value)]
  | (k, v) :: rest, key, value =>
    if k == key then (k, value) :: rest else (k, v) :: insert rest key value

/-- The entries of a list that may repeat keys: a key keeps its first place and its last value. -/
def ofList (entries : List (String × α)) : Entries α :=
  entries.foldl (fun acc e => acc.insert e.1 e.2) []

/-- Setting a key makes it readable. -/
theorem get?_insert_self (entries : Entries α) (key : String) (value : α) :
    (entries.insert key value).get? key = some value := by
  induction entries with
  | nil => simp [insert, get?]
  | cons e rest ih =>
    obtain ⟨k, v⟩ := e
    by_cases h : k == key
    · simp [insert, get?, h]
    · have h' : (k == key) = false := by simpa using h
      simpa [insert, get?, h'] using ih

end Entries

end TrackingPlan
