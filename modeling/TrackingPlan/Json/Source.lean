import TrackingPlan.Json.Number

/-!
# JSON text before its numbers and strings are read

A `Source` is what the text of a value says by its syntax alone.  Its leaves may turn out to be
unreadable: a numeral beyond the largest number, or a string with half of a surrogate pair.  A
reader that passes over an unknown field never looks at its leaves, nor at how deep it nests, so
such a field does no harm there; a reader that wants the value (`Source.value?`) refuses it.

§1 the syntax tree · §2 the text grammar · §3 the value.
-/

namespace TrackingPlan.Json

/-! ## §1 The syntax tree -/

/-- **A value by its syntax.**  `none` stands for a leaf that cannot be read; an object lists its
entries as written, repeated keys included. -/
inductive Source where
  | null
  | bool (value : Bool)
  | number (value : Option Number)
  | string (value : Option String)
  | array (items : List Source)
  | object (entries : List (Option String × Source))

namespace Source

/-! ## §2 The text grammar -/

/-- White space between tokens. -/
def isSpace (c : Char) : Bool :=
  c == ' ' || c == '\n' || c == '\t' || c == '\r'

/-- The rest of the text from the next token on. -/
def skipSpace (cs : List Char) : List Char :=
  cs.dropWhile isSpace

/-- The value of a hexadecimal digit. -/
def hexValue? (c : Char) : Option Nat :=
  if '0' ≤ c ∧ c ≤ '9' then some (c.toNat - 0x30)
  else if 'a' ≤ c ∧ c ≤ 'f' then some (c.toNat - 0x57)
  else if 'A' ≤ c ∧ c ≤ 'F' then some (c.toNat - 0x37)
  else none

/-- The number of four hexadecimal digits. -/
def hexQuad? (a b c d : Char) : Option Nat := do
  return ((← hexValue? a) * 16 + (← hexValue? b)) * 256 + (← hexValue? c) * 16 + (← hexValue? d)

/-- The low half of a surrogate pair at the head of the text, with what follows it. -/
def lowSurrogate? : List Char → Option (Nat × List Char)
  | '\\' :: 'u' :: a :: b :: c :: d :: rest =>
    match hexQuad? a b c d with
    | some n => if 0xDC00 ≤ n ∧ n ≤ 0xDFFF then some (n, rest) else none
    | none => none
  | _ => none

/-- The character of an escape of one letter. -/
def escaped? (c : Char) : Option Char :=
  if c == '"' || c == '\\' || c == '/' then some c
  else if c == 'b' then some (Char.ofNat 0x08)
  else if c == 'f' then some (Char.ofNat 0x0C)
  else if c == 'n' then some '\n'
  else if c == 'r' then some '\r'
  else if c == 't' then some '\t'
  else none

/-- Reads a string up to its closing quote.  `acc` holds its characters so far in reverse, or
`none` once a half of a surrogate pair made it unreadable; `high` is the first half of a pair whose
second half comes next. -/
def readString : Option (List Char) → Option Nat → List Char → Option (Option String × List Char)
  | acc, _, '"' :: rest => some (acc.map fun cs => String.ofList cs.reverse, rest)
  | acc, high, '\\' :: 'u' :: a :: b :: c :: d :: rest =>
    match hexQuad? a b c d with
    | none => none
    | some n =>
      match high with
      | some h =>
        let c := Char.ofNat (0x10000 + (h - 0xD800) * 0x400 + (n - 0xDC00))
        readString (acc.map (c :: ·)) none rest
      | none =>
        if 0xD800 ≤ n ∧ n ≤ 0xDBFF then
          if (lowSurrogate? rest).isSome then readString acc (some n) rest
          else readString none none rest
        else if 0xDC00 ≤ n ∧ n ≤ 0xDFFF then
          readString none none rest
        else
          readString (acc.map (Char.ofNat n :: ·)) none rest
  | acc, _, '\\' :: c :: rest =>
    match escaped? c with
    | none => none
    | some e => readString (acc.map (e :: ·)) none rest
  | acc, _, c :: rest => if c.toNat < 0x20 then none else readString (acc.map (c :: ·)) none rest
  | _, _, [] => none

/-- The value of a decimal digit. -/
def digitValue (c : Char) : Nat :=
  c.toNat - 0x30

/-- The decimal digits at the head of the text, and what follows them. -/
def readDigits (cs : List Char) : List Nat × List Char :=
  ((cs.takeWhile Char.isDigit).map digitValue, cs.dropWhile Char.isDigit)

/-- The fraction at the head of the text, if a point stands there; it needs a digit after it. -/
def readFraction : List Char → Option (Option (List Nat) × List Char)
  | '.' :: rest =>
    let (ds, rest) := readDigits rest
    if ds.isEmpty then none else some (some ds, rest)
  | cs => some (none, cs)

/-- The digits of an exponent; there is at least one. -/
def readExponentDigits (below : Bool) (cs : List Char) :
    Option (Option (Bool × List Nat) × List Char) :=
  let (ds, rest) := readDigits cs
  if ds.isEmpty then none else some (some (below, ds), rest)

/-- The exponent at the head of the text, if one stands there. -/
def readExponent : List Char → Option (Option (Bool × List Nat) × List Char)
  | 'e' :: '+' :: rest | 'E' :: '+' :: rest => readExponentDigits false rest
  | 'e' :: '-' :: rest | 'E' :: '-' :: rest => readExponentDigits true rest
  | 'e' :: rest | 'E' :: rest => readExponentDigits false rest
  | cs => some (none, cs)

/-- The numeral at the head of the text, its sign taken off.  A zero stands alone before a point. -/
def readNumeral (negative : Bool) (cs : List Char) : Option (Numeral × List Char) := do
  let (whole, rest) := readDigits cs
  match whole with
  | [] => none
  | 0 :: _ :: _ => none
  | _ =>
    let (fraction, rest) ← readFraction rest
    let (exponent, rest) ← readExponent rest
    return (⟨negative, whole, fraction, exponent⟩, rest)

/-- The number at the head of the text. -/
def readNumber (cs : List Char) : Option (Source × List Char) := do
  let (n, rest) ←
    match cs with
    | '-' :: rest => readNumeral true rest
    | _ => readNumeral false cs
  return (.number n.number?, rest)

mutual
/-- **The value at the head of the text**, and what follows it.  `fuel` bounds the calls; each
character pays for two. -/
def readValue : Nat → List Char → Option (Source × List Char)
  | 0, _ => none
  | fuel + 1, cs =>
    match skipSpace cs with
    | 'n' :: 'u' :: 'l' :: 'l' :: rest => some (.null, rest)
    | 't' :: 'r' :: 'u' :: 'e' :: rest => some (.bool true, rest)
    | 'f' :: 'a' :: 'l' :: 's' :: 'e' :: rest => some (.bool false, rest)
    | '"' :: rest => do
      let (s, rest) ← readString (some []) none rest
      return (.string s, rest)
    | '[' :: rest =>
      match skipSpace rest with
      | ']' :: rest => some (.array [], rest)
      | rest => readItems fuel [] rest
    | '\x7b' :: rest =>
      match skipSpace rest with
      | '\x7d' :: rest => some (.object [], rest)
      | rest => readEntries fuel [] rest
    | rest => readNumber rest

/-- The rest of an array, from an item on; `acc` holds the items before it in reverse. -/
def readItems : Nat → List Source → List Char → Option (Source × List Char)
  | 0, _, _ => none
  | fuel + 1, acc, cs => do
    let (item, rest) ← readValue fuel cs
    match skipSpace rest with
    | ',' :: rest => readItems fuel (item :: acc) rest
    | ']' :: rest => return (.array (item :: acc).reverse, rest)
    | _ => none

/-- The rest of an object, from a key on; `acc` holds the entries before it in reverse. -/
def readEntries : Nat → List (Option String × Source) → List Char → Option (Source × List Char)
  | 0, _, _ => none
  | fuel + 1, acc, cs =>
    match skipSpace cs with
    | '"' :: rest => do
      let (key, rest) ← readString (some []) none rest
      match skipSpace rest with
      | ':' :: rest =>
        let (value, rest) ← readValue fuel rest
        match skipSpace rest with
        | ',' :: rest => readEntries fuel ((key, value) :: acc) rest
        | '\x7d' :: rest => return (.object ((key, value) :: acc).reverse, rest)
        | _ => none
      | _ => none
    | _ => none
end

/-- **The syntax tree of a text** that holds one value and blanks around it. -/
def ofText? (text : String) : Option Source :=
  let cs := text.toList
  match readValue (2 * cs.length + 2) cs with
  | some (source, rest) => if (skipSpace rest).isEmpty then some source else none
  | none => none

/-! ## §3 The value -/

mutual
/-- **The value of a syntax tree** that nests at most `depth` containers and holds no unreadable
leaf.  An object that repeats a key keeps its first place and its last value. -/
def value? : Source → Nat → Option Json
  | .null, _ => some .null
  | .bool b, _ => some (.bool b)
  | .number n, _ => n.map .number
  | .string s, _ => s.map .string
  | .array _, 0 | .object _, 0 => none
  | .array items, depth + 1 => (itemValues? items depth).map .array
  | .object entries, depth + 1 =>
    (entryValues? entries depth).map fun es => .object (Entries.ofList es)
termination_by structural s => s

/-- The values of the items of an array. -/
def itemValues? : List Source → Nat → Option (List Json)
  | [], _ => some []
  | s :: rest, depth => do return (← s.value? depth) :: (← itemValues? rest depth)
termination_by structural ss => ss

/-- The keys and values of an object, as written. -/
def entryValues? : List (Option String × Source) → Nat → Option (List (String × Json))
  | [], _ => some []
  | (key, s) :: rest, depth => do return (← key, ← s.value? depth) :: (← entryValues? rest depth)
termination_by structural es => es
end

mutual
/-- How many containers the tree nests. -/
def height : Source → Nat
  | .array items => heightItems items + 1
  | .object entries => heightEntries entries + 1
  | _ => 0
termination_by structural s => s

/-- The greatest height among the items. -/
def heightItems : List Source → Nat
  | [] => 0
  | s :: rest => max s.height (heightItems rest)
termination_by structural ss => ss

/-- The greatest height among the entries. -/
def heightEntries : List (Option String × Source) → Nat
  | [] => 0
  | (_, s) :: rest => max s.height (heightEntries rest)
termination_by structural es => es
end

end Source

/-- How many containers a text may nest. -/
def depthLimit : Nat :=
  127

/-- **The value of a JSON text** that nests at most `depth` containers. -/
def ofText? (text : String) (depth : Nat) : Option Json := do
  (← Source.ofText? text).value? depth

mutual
/-- The syntax tree of a value. -/
def toSource : Json → Source
  | .null => .null
  | .bool b => .bool b
  | .number n => .number (some n)
  | .string s => .string (some s)
  | .array items => .array (itemSources items)
  | .object entries => .object (entrySources entries)
termination_by structural j => j

/-- The syntax trees of the items of an array. -/
def itemSources : List Json → List Source
  | [] => []
  | j :: rest => j.toSource :: itemSources rest
termination_by structural js => js

/-- The syntax trees of the entries of an object. -/
def entrySources : List (String × Json) → List (Option String × Source)
  | [] => []
  | (key, j) :: rest => (some key, j.toSource) :: entrySources rest
termination_by structural es => es
end

end TrackingPlan.Json
