import TrackingPlan.Toml.Draft
import TrackingPlan.Toml.Scalar

/-!
# Reading TOML text

A document is a sequence of lines: keys with their values, headers of tables, and comments.  Arrays
may run over several lines, inline tables may not.

§1 line ends and filling · §2 keys · §3 values · §4 documents.
-/

namespace TrackingPlan.Toml

/-! ## §1 Line ends and filling -/

/-- How many containers a value may nest. -/
def depthLimit : Nat :=
  79

/-- How many keys a dotted key may have. -/
def keyLimit : Nat :=
  79

/-- The rest of the line from its next token on. -/
def skipBlanks (cs : List Char) : List Char :=
  cs.dropWhile isBlank

/-- What follows the end of the line at the head, or the end of the text. -/
def afterNewline? : List Char → Option (List Char)
  | [] => some []
  | '\n' :: rest => some rest
  | '\r' :: '\n' :: rest => some rest
  | _ => none

/-- What follows a line of which nothing is left but a comment. -/
def endLine? (cs : List Char) : Option (List Char) :=
  match skipBlanks cs with
  | '#' :: rest => afterNewline? (rest.dropWhile isPlain)
  | rest => afterNewline? rest

/-- What follows the blanks, line ends and comments at the head; a comment ends at a line end. -/
def skipFilling? : Bool → List Char → Option (List Char)
  | _, '\n' :: rest => skipFilling? false rest
  | _, '\r' :: '\n' :: rest => skipFilling? false rest
  | true, c :: rest => if isPlain c then skipFilling? true rest else none
  | true, [] => none
  | false, '#' :: rest => skipFilling? true rest
  | false, c :: rest => if isBlank c then skipFilling? false rest else some (c :: rest)
  | false, [] => some []

/-! ## §2 Keys -/

/-- The key at the head: bare, or a string on one line. -/
def readSimpleKey? (cs : List Char) : StringRest :=
  match cs with
  | [] => none
  | c :: rest =>
    if c == '"' then readBasic [] rest
    else if c == apostrophe then readLiteral [] rest
    else if isBare c then some (String.ofList (cs.takeWhile isBare), cs.dropWhile isBare)
    else none

/-- The keys at the head, with dots between; the first argument bounds how many there are. -/
def readKeys? : Nat → List Char → Option (List String × List Char)
  | 0, _ => none
  | left + 1, cs => do
    let (key, rest) ← readSimpleKey? (skipBlanks cs)
    match skipBlanks rest with
    | '.' :: rest =>
      let (keys, rest) ← readKeys? left rest
      return (key :: keys, rest)
    | rest => return ([key], rest)

/-- **The dotted key at the head of the text.** -/
def readKey? (cs : List Char) : Option (KeyPath × List Char) := do
  let (keys, rest) ← readKeys? keyLimit cs
  return (← KeyPath.ofList? keys, rest)

/-! ## §3 Values -/

mutual
/-- **The value at the head of the text.**  `fuel` bounds the calls, of which each character pays
for two; `depth` is how many containers may still be nested. -/
def readValue? : Nat → Nat → List Char → Option (Toml × List Char)
  | 0, _, _ => none
  | fuel + 1, depth, cs =>
    match cs with
    | '[' :: rest =>
      match depth with
      | 0 => none
      | depth + 1 => readItems? fuel depth [] rest
    | '\x7b' :: rest =>
      match depth with
      | 0 => none
      | depth + 1 =>
        match skipBlanks rest with
        | '\x7d' :: rest => some (.table [], rest)
        | rest => readPairs? fuel depth [] rest
    | c :: _ =>
      if c == '"' || c == apostrophe then (readString? cs).map fun (s, rest) => (.string s, rest)
      else readWord? cs
    | [] => none

/-- The rest of an array; `acc` holds its items so far in reverse. -/
def readItems? : Nat → Nat → List Toml → List Char → Option (Toml × List Char)
  | 0, _, _, _ => none
  | fuel + 1, depth, acc, cs => do
    match ← skipFilling? false cs with
    | ']' :: rest => return (.array acc.reverse, rest)
    | rest =>
      let (item, rest) ← readValue? fuel depth rest
      match ← skipFilling? false rest with
      | ',' :: rest => readItems? fuel depth (item :: acc) rest
      | ']' :: rest => return (.array (item :: acc).reverse, rest)
      | _ => none

/-- The rest of an inline table from a key on; `acc` holds its pairs so far in reverse. -/
def readPairs? : Nat → Nat → List (KeyPath × Toml) → List Char → Option (Toml × List Char)
  | 0, _, _, _ => none
  | fuel + 1, depth, acc, cs => do
    match ← readKey? cs with
    | (key, '=' :: rest) =>
      let (value, rest) ← readValue? fuel depth (skipBlanks rest)
      match skipBlanks rest with
      | ',' :: rest => readPairs? fuel depth ((key, value) :: acc) rest
      | '\x7d' :: rest => return (← ofPairs? ((key, value) :: acc).reverse, rest)
      | _ => none
    | _ => none
end

/-! ## §4 Documents -/

/-- The header at the head of a line, after its bracket. -/
def readHeader? : List Char → Option (Statement × List Char)
  | '[' :: rest => do
    match ← readKey? rest with
    | (key, ']' :: ']' :: rest) => return (.element key, ← endLine? rest)
    | _ => none
  | rest => do
    match ← readKey? rest with
    | (key, ']' :: rest) => return (.header key, ← endLine? rest)
    | _ => none

/-- The key and its value at the head of a line. -/
def readEntry? (cs : List Char) : Option (Statement × List Char) := do
  match ← readKey? cs with
  | (key, '=' :: rest) =>
    let (value, rest) ← readValue? (2 * rest.length + 2) depthLimit (skipBlanks rest)
    return (.entry key value, ← endLine? rest)
  | _ => none

/-- The statements from here on.  Every step takes a character, so the length of the text is fuel
enough. -/
def readStatements? : Nat → List Char → Option (List Statement)
  | 0, cs => if cs.isEmpty then some [] else none
  | fuel + 1, cs =>
    match skipBlanks cs with
    | [] => some []
    | '[' :: rest => do
      let (s, rest) ← readHeader? rest
      return s :: (← readStatements? fuel rest)
    | rest => do
      match endLine? rest with
      | some rest => readStatements? fuel rest
      | none =>
        let (s, rest) ← readEntry? rest
        return s :: (← readStatements? fuel rest)

/-- **The table of a TOML text**, which may begin with a byte order mark. -/
def ofText? (text : String) : Option (Entries Toml) :=
  let cs :=
    match text.toList with
    | c :: rest => if c.toNat == 0xFEFF then rest else c :: rest
    | [] => []
  (readStatements? cs.length cs).bind ofStatements?

end TrackingPlan.Toml
