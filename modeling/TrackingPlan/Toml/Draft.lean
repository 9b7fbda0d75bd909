import TrackingPlan.Toml.Basic

/-!
# The table of a document, built statement by statement

A table is defined once: by its own header, or by dotted keys.  A header may also come after the
headers of tables in it, which only *imply* it.  Dotted keys add to a table that dotted keys made,
and to no other.

§1 unfinished tables · §2 reaching a table · §3 statements · §4 inline tables.
-/

namespace TrackingPlan.Toml

/-! ## §1 Unfinished tables -/

/-- **What made a table**: a header of its own, the header of a table in it, or a dotted key. -/
inductive TableOrigin where
  | header
  | implied
  | dotted
deriving DecidableEq

/-- **What stands at a key** while the document is read: a finished value, a table that may grow, or
an array of tables, of which the last one may grow. -/
inductive Node where
  | value (v : Toml)
  | table (origin : TableOrigin) (entries : List (String × Node))
  | tables (last : List (String × Node)) (earlier : List (List (String × Node)))

mutual
/-- The value that a node stands for. -/
def Node.finish : Node → Toml
  | .value v => v
  | .table _ entries => .table (finishEntries entries)
  | .tables last earlier =>
    .array ((finishTables earlier).reverse ++ [.table (finishEntries last)])
termination_by structural n => n

/-- The entries that nodes stand for. -/
def finishEntries : List (String × Node) → List (String × Toml)
  | [] => []
  | (key, n) :: rest => (key, n.finish) :: finishEntries rest
termination_by structural es => es

/-- The tables that unfinished tables stand for. -/
def finishTables : List (List (String × Node)) → List Toml
  | [] => []
  | entries :: rest => .table (finishEntries entries) :: finishTables rest
termination_by structural ts => ts
end

/-! ## §2 Reaching a table -/

/-- **Changes the table at a path**; tables missing on the way are made.  With `dotted` the path is
part of a dotted key, which does not go into a table that has a header. -/
def alterAt (dotted : Bool) (change : TableOrigin → Entries Node → Option (Entries Node)) :
    List String → TableOrigin → Entries Node → Option (Entries Node)
  | [], origin, entries => change origin entries
  | key :: rest, _, entries =>
    match entries.get? key with
    | none =>
      let origin := if dotted then .dotted else .implied
      (alterAt dotted change rest origin []).map fun es => entries.insert key (.table origin es)
    | some (.value _) => none
    | some (.table origin inner) =>
      if dotted && origin == .header then none
      else
        (alterAt dotted change rest origin inner).map fun es =>
          entries.insert key (.table origin es)
    | some (.tables last earlier) =>
      (alterAt dotted change rest .header last).map fun es =>
        entries.insert key (.tables es earlier)

/-- **Defines a dotted key** in a table: it is new, and its parents are dotted keys too. -/
def define (key : KeyPath) (v : Toml) (entries : Entries Node) : Option (Entries Node) :=
  alterAt true
    (fun origin es =>
      if (origin == .dotted) == key.parents.isEmpty then none
      else if es.has key.last then none
      else some (es.insert key.last (.value v)))
    key.parents .header entries

/-- Opens the table under a key: a new one, or one that was implied. -/
def openTable (key : String) (entries : Entries Node) : Option (Entries Node) :=
  match entries.get? key with
  | none => some (entries.insert key (.table .header []))
  | some (.table .implied inner) => some (entries.insert key (.table .header inner))
  | some _ => none

/-- Opens one more table of the array under a key. -/
def openElement (key : String) (entries : Entries Node) : Option (Entries Node) :=
  match entries.get? key with
  | none => some (entries.insert key (.tables [] []))
  | some (.tables last earlier) => some (entries.insert key (.tables [] (last :: earlier)))
  | some _ => none

/-! ## §3 Statements -/

/-- **A document so far**: its table, and the path of the table that the last header opened. -/
structure Draft where
  root : Entries Node := []
  current : List String := []

/-- Adds a statement, unless it defines something again. -/
def Draft.add (d : Draft) : Statement → Option Draft
  | .entry key v =>
    (alterAt false (fun _ es => define key v es) d.current .header d.root).map fun root =>
      { d with root := root }
  | .header key =>
    (alterAt false (fun _ es => openTable key.last es) key.parents .header d.root).map fun root =>
      ⟨root, key.parents ++ [key.last]⟩
  | .element key =>
    (alterAt false (fun _ es => openElement key.last es) key.parents .header d.root).map fun root =>
      ⟨root, key.parents ++ [key.last]⟩

/-- **The table of a document**, from its statements in order. -/
def ofStatements? (statements : List Statement) : Option (Entries Toml) :=
  (statements.foldlM Draft.add {}).map fun d => finishEntries d.root

/-! ## §4 Inline tables -/

/-- **The inline table of keys and values**, in order. -/
def ofPairs? (pairs : List (KeyPath × Toml)) : Option Toml :=
  (pairs.foldlM (fun entries p => define p.1 p.2 entries) []).map fun es =>
    .table (finishEntries es)

end TrackingPlan.Toml
