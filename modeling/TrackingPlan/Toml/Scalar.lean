import TrackingPlan.Toml.Basic

/-!
# Strings, numbers and moments of TOML

A string is read up to its closing quotes.  A number, a truth value or a moment is a *word*, a run
of characters that cannot stand next to it otherwise, and is recognised as a whole.

§1 characters · §2 strings on one line · §3 strings on several lines · §4 numbers · §5 moments ·
§6 words.
-/

namespace TrackingPlan.Toml

/-! ## §1 Characters -/

/-- The apostrophe, which encloses strings without escapes. -/
def apostrophe : Char :=
  Char.ofNat 0x27

/-- A character that may stand in a comment or a string: no control but the tab. -/
def isPlain (c : Char) : Bool :=
  c == '\t' || (0x20 ≤ c.toNat && c.toNat != 0x7F)

/-- A blank between tokens of a line. -/
def isBlank (c : Char) : Bool :=
  c == ' ' || c == '\t'

/-- A character of a bare key. -/
def isBare (c : Char) : Bool :=
  c.isAlphanum || c == '-' || c == '_'

/-- The value of a hexadecimal digit. -/
def hexValue? (c : Char) : Option Nat :=
  if c.isDigit then some (c.toNat - 0x30)
  else if 'a' ≤ c ∧ c ≤ 'f' then some (c.toNat - 0x57)
  else if 'A' ≤ c ∧ c ≤ 'F' then some (c.toNat - 0x37)
  else none

/-- The character with this code in hexadecimal digits. -/
def charOfHex? (digits : List Char) : Option Char := do
  let values ← digits.mapM hexValue?
  let n := values.foldl (fun n v => n * 16 + v) 0
  if n.isValidChar then some (Char.ofNat n) else none

/-- The character of an escape of one letter. -/
def escaped? (c : Char) : Option Char :=
  if c == '"' || c == '\\' then some c
  else if c == 'b' then some (Char.ofNat 0x08)
  else if c == 'f' then some (Char.ofNat 0x0C)
  else if c == 'n' then some '\n'
  else if c == 'r' then some '\r'
  else if c == 't' then some '\t'
  else none

/-! ## §2 Strings on one line -/

/-- What a reader of the rest of a string gives: the string, and what follows it. -/
abbrev StringRest := Option (String × List Char)

/-- The string of characters in reverse. -/
def ofReversed (acc : List Char) : String :=
  String.ofList acc.reverse

/-- The rest of a string with escapes; `acc` holds its characters so far in reverse. -/
def readBasic : List Char → List Char → StringRest
  | acc, '"' :: rest => some (ofReversed acc, rest)
  | acc, '\\' :: 'u' :: a :: b :: c :: d :: rest =>
    match charOfHex? [a, b, c, d] with
    | some e => readBasic (e :: acc) rest
    | none => none
  | acc, '\\' :: 'U' :: a :: b :: c :: d :: e :: f :: g :: h :: rest =>
    match charOfHex? [a, b, c, d, e, f, g, h] with
    | some e => readBasic (e :: acc) rest
    | none => none
  | acc, '\\' :: c :: rest =>
    match escaped? c with
    | some e => readBasic (e :: acc) rest
    | none => none
  | acc, c :: rest => if isPlain c then readBasic (c :: acc) rest else none
  | _, [] => none

/-- The rest of a string without escapes. -/
def readLiteral : List Char → List Char → StringRest
  | acc, c :: rest =>
    if c == apostrophe then some (ofReversed acc, rest)
    else if isPlain c then readLiteral (c :: acc) rest
    else none
  | _, [] => none

/-! ## §3 Strings on several lines -/

/-- The text without the end of line at its head. -/
def dropNewline : List Char → List Char
  | '\n' :: rest => rest
  | '\r' :: '\n' :: rest => rest
  | cs => cs

/-- Whether an end of line stands at the head. -/
def startsLine : List Char → Bool
  | '\n' :: _ => true
  | '\r' :: '\n' :: _ => true
  | _ => false

/-- The rest of a string with escapes on several lines.  With `folding` the blanks and line ends
at the head belong to a line that was broken by a backslash.  Up to two quotes may stand right
before the closing ones. -/
def readLongBasic : Bool → List Char → List Char → StringRest
  | true, acc, ' ' :: rest => readLongBasic true acc rest
  | true, acc, '\t' :: rest => readLongBasic true acc rest
  | true, acc, '\n' :: rest => readLongBasic true acc rest
  | true, acc, '\r' :: '\n' :: rest => readLongBasic true acc rest
  | _, acc, '"' :: '"' :: '"' :: '"' :: '"' :: rest => some (ofReversed ('"' :: '"' :: acc), rest)
  | _, acc, '"' :: '"' :: '"' :: '"' :: rest => some (ofReversed ('"' :: acc), rest)
  | _, acc, '"' :: '"' :: '"' :: rest => some (ofReversed acc, rest)
  | _, acc, '\\' :: 'u' :: a :: b :: c :: d :: rest =>
    match charOfHex? [a, b, c, d] with
    | some e => readLongBasic false (e :: acc) rest
    | none => none
  | _, acc, '\\' :: 'U' :: a :: b :: c :: d :: e :: f :: g :: h :: rest =>
    match charOfHex? [a, b, c, d, e, f, g, h] with
    | some e => readLongBasic false (e :: acc) rest
    | none => none
  | _, acc, '\\' :: c :: rest =>
    match escaped? c with
    | some e => readLongBasic false (e :: acc) rest
    | none =>
      if startsLine ((c :: rest).dropWhile isBlank) then readLongBasic true acc (c :: rest)
      else none
  | _, acc, '\r' :: '\n' :: rest => readLongBasic false ('\n' :: acc) rest
  | _, acc, '\n' :: rest => readLongBasic false ('\n' :: acc) rest
  | _, acc, c :: rest => if isPlain c then readLongBasic false (c :: acc) rest else none
  | _, _, [] => none

/-- The rest of a string without escapes on several lines. -/
def readLongLiteral : List Char → List Char → StringRest
  | acc, '\r' :: '\n' :: rest => readLongLiteral ('\n' :: acc) rest
  | acc, '\n' :: rest => readLongLiteral ('\n' :: acc) rest
  | acc, c :: rest =>
    if c == apostrophe && rest.take 2 == [apostrophe, apostrophe] then
      let extra := ((rest.drop 2).take 2).takeWhile (· == apostrophe)
      some (ofReversed (extra ++ acc), rest.drop (2 + extra.length))
    else if isPlain c then readLongLiteral (c :: acc) rest
    else none
  | _, [] => none

/-- **The string at the head of the text**, in one of its four forms. -/
def readString? (cs : List Char) : StringRest :=
  match cs with
  | '"' :: '"' :: '"' :: rest => readLongBasic false [] (dropNewline rest)
  | '"' :: rest => readBasic [] rest
  | c :: rest =>
    if c != apostrophe then none
    else if rest.take 2 == [apostrophe, apostrophe] then
      readLongLiteral [] (dropNewline (rest.drop 2))
    else readLiteral [] rest
  | [] => none

/-! ## §4 Numbers -/

/-- The digits without the underscores between them; an underscore has a digit on either side. -/
def digits? (isDigit : Char → Bool) : List Char → Option (List Char)
  | [] => none
  | [c] => if isDigit c then some [c] else none
  | c :: '_' :: rest => if isDigit c then (digits? isDigit rest).map (c :: ·) else none
  | c :: rest => if isDigit c then (digits? isDigit rest).map (c :: ·) else none

/-- The number of digits in a base. -/
def ofDigits (base : Nat) (ds : List Char) : Nat :=
  ds.foldl (fun n c => n * base + (hexValue? c).getD 0) 0

/-- The sign before a number, and what follows it. -/
def splitSign : List Char → Bool × List Char
  | '+' :: rest => (false, rest)
  | '-' :: rest => (true, rest)
  | cs => (false, cs)

/-- The digits of a whole number in base ten: a zero stands alone. -/
def whole? (cs : List Char) : Option (List Char) :=
  match digits? Char.isDigit cs with
  | some ('0' :: _ :: _) => none
  | ds => ds

/-- The integer, if it fits into 64 bits. -/
def fitted? (i : Int) : Option Toml :=
  if Int64.minValue.toInt ≤ i ∧ i ≤ Int64.maxValue.toInt then some (.integer (Int64.ofInt i))
  else none

/-- The integer that a word is.  In bases other than ten it has no sign. -/
def integer? : List Char → Option Toml
  | '0' :: 'x' :: rest => do
    fitted? (ofDigits 16 (← digits? (fun c => (hexValue? c).isSome) rest))
  | '0' :: 'o' :: rest => do
    fitted? (ofDigits 8 (← digits? (fun c => '0' ≤ c ∧ c ≤ '7') rest))
  | '0' :: 'b' :: rest => do
    fitted? (ofDigits 2 (← digits? (fun c => c == '0' || c == '1') rest))
  | cs => do
    let (negative, rest) := splitSign cs
    let n := ofDigits 10 (← whole? rest)
    fitted? (if negative then -(n : Int) else n)

/-- Whether digits with `places` of them after the point, times a power of ten, round to infinity
in double precision. -/
def overflows (ds : List Char) (places : Nat) (exponent : Int) : Bool :=
  let ds := ds.dropWhile (· == '0')
  let shift := exponent - places
  if ds.isEmpty || ds.length + shift < 300 then false
  else if ds.length + shift > 400 then true
  else
    let limit := Nat.pow 2 1024 - Nat.pow 2 970
    let n := ofDigits 10 ds
    if shift < 0 then limit * Nat.pow 10 shift.natAbs ≤ n
    else limit ≤ n * Nat.pow 10 shift.natAbs

/-- The number that is no integer and that a word is: it has a fraction or an exponent, and does not
exceed double precision above. -/
def float? (cs : List Char) : Option Toml := do
  let (negative, rest) := splitSign cs
  if rest == "inf".toList || rest == "nan".toList then
    return .float (String.ofList cs)
  let isMark := fun c : Char => c == 'e' || c == 'E'
  let mantissa := rest.takeWhile fun c => !isMark c
  let (whole, fraction) := (mantissa.takeWhile (· != '.'), mantissa.dropWhile (· != '.'))
  let ds ← whole? whole
  let fs ←
    match fraction with
    | [] => pure []
    | _ :: fs => digits? Char.isDigit fs
  let exponent : Int ←
    match rest.dropWhile fun c => !isMark c with
    | [] => if fraction.isEmpty then none else pure 0
    | _ :: es => do
      let (below, es) := splitSign es
      let n := ofDigits 10 (← digits? Char.isDigit es)
      pure (if below then -(n : Int) else n)
  if !negative && overflows (ds ++ fs) fs.length exponent then none
  else return .float (String.ofList cs)

/-! ## §5 Moments -/

/-- The number of two digits, if it lies between the bounds. -/
def twoDigits? (low high : Nat) (a b : Char) : Option Nat :=
  if a.isDigit && b.isDigit then
    let n := ofDigits 10 [a, b]
    if low ≤ n ∧ n ≤ high then some n else none
  else
    none

/-- How many days a month has. -/
def daysIn (year month : Nat) : Nat :=
  if month == 2 then
    if year % 4 == 0 && (year % 100 != 0 || year % 400 == 0) then 29 else 28
  else if [4, 6, 9, 11].contains month then 30
  else 31

/-- What follows the date at the head of a word. -/
def afterDate? : List Char → Option (List Char)
  | a :: b :: c :: d :: '-' :: e :: f :: '-' :: g :: h :: rest => do
    if [a, b, c, d].all Char.isDigit then
      let month ← twoDigits? 1 12 e f
      let _ ← twoDigits? 1 (daysIn (ofDigits 10 [a, b, c, d]) month) g h
      return rest
    else
      none
  | _ => none

/-- What follows the time of day at the head of a word. -/
def afterTime? : List Char → Option (List Char)
  | a :: b :: ':' :: c :: d :: ':' :: e :: f :: rest => do
    let _ ← twoDigits? 0 23 a b
    let _ ← twoDigits? 0 59 c d
    let _ ← twoDigits? 0 60 e f
    match rest with
    | '.' :: g :: rest => if g.isDigit then return rest.dropWhile Char.isDigit else none
    | '.' :: [] => none
    | rest => return rest
  | _ => none

/-- Whether the word is nothing, or the distance to universal time. -/
def isOffset : List Char → Bool
  | [] => true
  | ['Z'] => true
  | ['z'] => true
  | [sign, a, b, ':', c, d] =>
    (sign == '+' || sign == '-') && (twoDigits? 0 23 a b).isSome && (twoDigits? 0 59 c d).isSome
  | _ => false

/-- Whether the word is a time of day, which may say its distance to universal time. -/
def isZonedTime (cs : List Char) : Bool :=
  (afterTime? cs).any isOffset

/-- Whether the word is a moment. -/
def isMoment (cs : List Char) : Bool :=
  match afterDate? cs with
  | some [] => true
  | some (t :: rest) => (t == 'T' || t == 't') && isZonedTime rest
  | none => (afterTime? cs).any List.isEmpty

/-! ## §6 Words -/

/-- A character of a word. -/
def isWordChar (c : Char) : Bool :=
  c.isAlphanum || c == '_' || c == '+' || c == '-' || c == '.' || c == ':'

/-- The value that a word is. -/
def ofWord? (cs : List Char) : Option Toml :=
  if cs == "true".toList then some (.bool true)
  else if cs == "false".toList then some (.bool false)
  else if isMoment cs then some (.moment (String.ofList cs))
  else (float? cs).or (integer? cs)

/-- **The value of the word at the head of the text.**  A date and a time of day after one blank are
one moment. -/
def readWord? (cs : List Char) : Option (Toml × List Char) := do
  let word := cs.takeWhile isWordChar
  let rest := cs.dropWhile isWordChar
  match afterDate? word, rest with
  | some [], ' ' :: more =>
    let time := more.takeWhile isWordChar
    if isZonedTime time then
      return (.moment (String.ofList (word ++ ' ' :: time)), more.dropWhile isWordChar)
    else
      return (.moment (String.ofList word), rest)
  | _, _ => return (← ofWord? word, rest)

end TrackingPlan.Toml
