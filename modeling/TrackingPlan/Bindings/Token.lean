import TrackingPlan.Binary64.Decimal
import TrackingPlan.Bindings.Identifier
import TrackingPlan.Json.Writer
import TrackingPlan.Text.Hidden

/-!
# Tokens of the emitted code, and their text

Emitted code is a list of token trees.  Its text puts one blank between tokens, but none after a
tight mark; round and square brackets hold their tokens without blanks inside, braces with one on
either side.

§1 tokens · §2 quoted text · §3 text.
-/

namespace TrackingPlan.Bindings

/-! ## §1 Tokens -/

/-- The brackets around a group. -/
inductive Delimiter where
  | round
  | square
  | brace
deriving DecidableEq

/-- **A token**: a fixed word or mark, a mark that the next token follows directly, an identifier, a
quoted text, a fixed doc text, a number with its type, or a group. -/
inductive Token where
  | word (text : String)
  | mark (text : String)
  | tight (text : String)
  | ident (name : Identifier)
  | quoted (text : String)
  | doc (text : String)
  | int64 (value : Int64)
  | float64 (value : Binary64)
  | group (delimiter : Delimiter) (body : List Token)

/-- Fixed code without groups, its tokens separated by blanks. -/
def code (text : String) : List Token :=
  (text.splitOn " ").map fun t =>
    if t.toList.head?.any (fun c => c.isAlpha || c == '_') then .word t else .mark t

/-- A group in round brackets. -/
def round (body : List Token) : Token :=
  .group .round body

/-- A group in square brackets. -/
def square (body : List Token) : Token :=
  .group .square body

/-- A group in braces. -/
def braces (body : List Token) : Token :=
  .group .brace body

/-! ## §2 Quoted text -/

/-- The digits of a number in lower-case hexadecimal, least last. -/
def hexDigits (n : Nat) : List Char :=
  Nat.toDigits 16 n

/-- How a character is written in a quoted text; `next` is the character after it.  A zero
character before an octal digit would read as a longer number, so it is written in full. -/
def escapeQuoted (c : Char) (next : Option Char) : List Char :=
  if c.toNat == 0 then
    if next.any fun d => '0' ≤ d ∧ d ≤ '7' then ['\\', 'x', '0', '0'] else ['\\', '0']
  else if c == '\t' then ['\\', 't']
  else if c == '\r' then ['\\', 'r']
  else if c == '\n' then ['\\', 'n']
  else if c == '"' then ['\\', '"']
  else if c == '\\' then ['\\', '\\']
  else if Text.isHidden c then ['\\', 'u', '\x7b'] ++ hexDigits c.toNat ++ ['\x7d']
  else [c]

/-- The characters of a quoted text, escaped. -/
def quotedChars : List Char → List Char
  | [] => []
  | c :: rest => escapeQuoted c rest.head? ++ quotedChars rest

/-- The text in quotes. -/
def quote (s : String) : String :=
  String.ofList ('"' :: (quotedChars s.toList ++ ['"']))

/-! ## §3 Text -/

/-- A group of this text. -/
def Delimiter.wrap (d : Delimiter) (inner : String) : String :=
  match d with
  | .round => "(" ++ inner ++ ")"
  | .square => "[" ++ inner ++ "]"
  | .brace => if inner.isEmpty then "\x7b \x7d" else "\x7b " ++ inner ++ " \x7d"

/-- A number below zero is its mark and its magnitude. -/
def signed (negative : Bool) (magnitude : String) : String :=
  (if negative then "- " else "") ++ magnitude

/-- Whether the next token follows directly. -/
def Token.isTight : Token → Bool
  | .tight _ => true
  | _ => false

/-- The text put directly before the first of other texts. -/
def putBefore (text : String) : List String → List String
  | [] => [text]
  | next :: rest => (text ++ next) :: rest

mutual
/-- **The text of a token.** -/
def Token.text : Token → String
  | .word text => text
  | .mark text => text
  | .tight text => text
  | .ident name => name.text
  | .quoted text => quote text
  | .doc text => "r\"" ++ text ++ "\""
  | .int64 value => signed (value < 0) (toString value.toInt.natAbs ++ "i64")
  | .float64 value => signed value.isNegative (DecimalStyle.plain.format value.shortest ++ "f64")
  | .group d body => d.wrap (" ".intercalate (tokenTexts body))
termination_by structural t => t

/-- The texts of tokens, those that stand directly together joined. -/
def tokenTexts : List Token → List String
  | [] => []
  | t :: rest =>
    if t.isTight then putBefore t.text (tokenTexts rest) else t.text :: tokenTexts rest
termination_by structural ts => ts
end

/-- **The text of tokens**, one blank between them. -/
def tokensText (ts : List Token) : String :=
  " ".intercalate (tokenTexts ts)

end TrackingPlan.Bindings
