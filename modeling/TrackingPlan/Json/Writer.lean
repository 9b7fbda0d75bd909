import TrackingPlan.Binary64.Decimal
import TrackingPlan.Json.Basic

/-!
# The compact text of a JSON value

No blanks, keys in order, integers plain, other numbers in `DecimalStyle.json`.  In a string only
the quote, the backslash and the controls below the space are escaped.
-/

namespace TrackingPlan.Json

/-- A digit in lower-case hexadecimal. -/
def hexDigit (n : Nat) : Char :=
  if n < 10 then Char.ofNat (0x30 + n) else Char.ofNat (0x57 + n)

/-- How a character is written in a string. -/
def escapeChar (c : Char) : List Char :=
  if c == '"' then ['\\', '"']
  else if c == '\\' then ['\\', '\\']
  else if c == '\n' then ['\\', 'n']
  else if c == '\r' then ['\\', 'r']
  else if c == '\t' then ['\\', 't']
  else if c.toNat == 0x08 then ['\\', 'b']
  else if c.toNat == 0x0C then ['\\', 'f']
  else if c.toNat < 0x20 then
    ['\\', 'u', '0', '0', hexDigit (c.toNat / 16), hexDigit (c.toNat % 16)]
  else [c]

/-- The string in quotes. -/
def quote (s : String) : String :=
  String.ofList ('"' :: (s.toList.flatMap escapeChar ++ ['"']))

/-- The text of a number. -/
def Number.text : Number → String
  | .integer i => toString i
  | .float x => x.toText .json

mutual
/-- **The compact text of a value.** -/
def text : Json → String
  | .null => "null"
  | .bool b => if b then "true" else "false"
  | .number n => n.text
  | .string s => quote s
  | .array items => "[" ++ ",".intercalate (itemTexts items) ++ "]"
  | .object entries => "\x7b" ++ ",".intercalate (entryTexts entries) ++ "\x7d"
termination_by structural j => j

/-- The texts of the items of an array. -/
def itemTexts : List Json → List String
  | [] => []
  | j :: rest => j.text :: itemTexts rest
termination_by structural js => js

/-- The texts of the entries of an object, key and value. -/
def entryTexts : List (String × Json) → List String
  | [] => []
  | (key, j) :: rest => (quote key ++ ":" ++ j.text) :: entryTexts rest
termination_by structural es => es
end

/-- The text of an object by itself. -/
def Object.text (o : Object) : String :=
  Json.text (.object o)

end TrackingPlan.Json
