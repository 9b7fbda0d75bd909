import TrackingPlan.Text.Identifier

/-!
# Forms of literals

A literal is a text in quotes, a text in quotes that stands as it is (a *raw* one), one character
between apostrophes, or a number; a suffix may follow directly.  Each function here tells what
follows such a piece at the head of a text, or that none stands there.

§1 escapes · §2 texts in quotes · §3 characters · §4 numbers · §5 literals.
-/

namespace TrackingPlan.Bindings.LiteralForm

/-! ## §1 Escapes -/

/-- What the characters between quotes stand for: text, bytes, or text that ends at a zero. -/
inductive Content where
  | text
  | bytes
  | zeroEnded
deriving DecidableEq

/-- The apostrophe. -/
def apostrophe : Char :=
  Char.ofNat 0x27

/-- Whether the character may stand between quotes without an escape. -/
def Content.admits : Content → Char → Bool
  | .text, _ => true
  | .bytes, c => c.toNat < 0x80
  | .zeroEnded, c => c.toNat != 0

/-- The value of a hexadecimal digit. -/
def hexValue? (c : Char) : Option Nat :=
  if '0' ≤ c && c ≤ '9' then some (c.toNat - '0'.toNat)
  else if 'a' ≤ c && c ≤ 'f' then some (c.toNat - 'a'.toNat + 10)
  else if 'A' ≤ c && c ≤ 'F' then some (c.toNat - 'A'.toNat + 10)
  else none

/-- Whether two hexadecimal digits with these values may name a character: of text the ASCII
characters only. -/
def Content.admitsPair : Content → Nat → Nat → Bool
  | .text, high, _ => high < 8
  | .bytes, _, _ => true
  | .zeroEnded, high, low => high != 0 || low != 0

/-- What follows a code point in braces, and the code point: at most six hexadecimal digits,
underscores after the first.  `digits` and `value` are those read so far. -/
def afterCodePoint? (digits value : Nat) : List Char → Option (Nat × List Char)
  | [] => none
  | c :: rest =>
    match hexValue? c with
    | some d => if digits == 6 then none else afterCodePoint? (digits + 1) (16 * value + d) rest
    | none =>
      if digits == 0 then none
      else if c == '_' then afterCodePoint? digits value rest
      else if c == '\x7d' && value.isValidChar then some (value, rest)
      else none

/-- What follows an escape, given what follows its backslash. -/
def afterEscape? (content : Content) : List Char → Option (List Char)
  | 'x' :: high :: low :: rest =>
    match hexValue? high, hexValue? low with
    | some h, some l => if content.admitsPair h l then some rest else none
    | _, _ => none
  | 'u' :: '\x7b' :: rest =>
    match content, afterCodePoint? 0 0 rest with
    | .bytes, _ => none
    | .zeroEnded, some (0, _) => none
    | _, found => found.map (·.2)
  | c :: rest =>
    if c == apostrophe || ['n', 'r', 't', '\\', '"'].contains c then some rest
    else if c == '0' && content != .zeroEnded then some rest
    else none
  | [] => none

/-- Whether the character is skipped at the beginning of a continued line. -/
def isIndent (c : Char) : Bool :=
  c == ' ' || c == '\t' || c == '\n' || c == '\r'

/-- What a line that ends in a backslash goes on with, given the first character of its end: the
blanks before it are skipped, and something has to follow them. -/
def afterLineEnd? : Char → List Char → Option (List Char)
  | '\r', '\n' :: c :: rest => if isIndent c then afterLineEnd? c rest else some (c :: rest)
  | '\r', _ => none
  | _, c :: rest => if isIndent c then afterLineEnd? c rest else some (c :: rest)
  | _, [] => none

/-! ## §2 Texts in quotes -/

/-- What follows the closing quote.  A line ends in a line feed, possibly after a carriage return,
which stands nowhere else.  Every step takes a character, so the length is fuel enough. -/
def afterQuoted? (content : Content) : Nat → List Char → Option (List Char)
  | 0, _ => none
  | _, [] => none
  | _, '"' :: rest => some rest
  | fuel + 1, '\r' :: '\n' :: rest => afterQuoted? content fuel rest
  | _, '\r' :: _ => none
  | fuel + 1, '\\' :: '\n' :: rest => (afterLineEnd? '\n' rest).bind (afterQuoted? content fuel)
  | fuel + 1, '\\' :: '\r' :: rest => (afterLineEnd? '\r' rest).bind (afterQuoted? content fuel)
  | fuel + 1, '\\' :: rest => (afterEscape? content rest).bind (afterQuoted? content fuel)
  | fuel + 1, c :: rest => if content.admits c then afterQuoted? content fuel rest else none

/-- The most number signs before a raw text. -/
def numberSignLimit : Nat :=
  255

/-- What follows the closing quote of a raw text and its number signs. -/
def afterRaw? (content : Content) (signs : List Char) : List Char → Option (List Char)
  | [] => none
  | '\r' :: '\n' :: rest => afterRaw? content signs rest
  | '\r' :: _ => none
  | c :: rest =>
    if c == '"' && signs.isPrefixOf rest then some (rest.drop signs.length)
    else if content.admits c then afterRaw? content signs rest
    else none

/-- What follows a raw text, given what follows the letter before it. -/
def afterSigns? (content : Content) (cs : List Char) : Option (List Char) :=
  let signs := cs.takeWhile (· == '#')
  match cs.drop signs.length with
  | '"' :: rest => if signs.length ≤ numberSignLimit then afterRaw? content signs rest else none
  | _ => none

/-! ## §3 Characters -/

/-- What follows an apostrophe at the head of the text. -/
def afterApostrophe? : List Char → Option (List Char)
  | [] => none
  | c :: rest => if c == apostrophe then some rest else none

/-- What follows a character between apostrophes, given what follows the first apostrophe. -/
def afterCharacter? (content : Content) : List Char → Option (List Char)
  | [] => none
  | '\\' :: rest => (afterEscape? content rest).bind afterApostrophe?
  | c :: rest => if content.admits c then afterApostrophe? rest else none

/-! ## §4 Numbers -/

/-- Whether the character is a decimal digit. -/
def isDecimal (c : Char) : Bool :=
  '0' ≤ c && c ≤ '9'

/-- Whether the character is a decimal digit or an underscore between digits. -/
def isDecimalPart (c : Char) : Bool :=
  isDecimal c || c == '_'

/-- What follows the digits of a number in this base.  A decimal digit that the base does not have
spoils the number; a letter that it does not have ends it. -/
def afterDigits? (base : Nat) : (found : Bool) → List Char → Option (List Char)
  | found, [] => if found then some [] else none
  | found, c :: rest =>
    match hexValue? c with
    | some d =>
      if d < base then afterDigits? base true rest
      else if isDecimal c || !found then none
      else some (c :: rest)
    | none =>
      if c == '_' && (found || base != 10) then afterDigits? base found rest
      else if found then some (c :: rest)
      else none

/-- What follows the digits of an integer, which may begin with the mark of its base. -/
def afterInteger? : List Char → Option (List Char)
  | '0' :: 'x' :: rest => afterDigits? 16 false rest
  | '0' :: 'o' :: rest => afterDigits? 8 false rest
  | '0' :: 'b' :: rest => afterDigits? 2 false rest
  | cs => afterDigits? 10 false cs

/-- What follows the digits of an exponent, given what follows its letter.  There is one sign at
most, and a digit at least. -/
def afterExponent? (cs : List Char) : Option (List Char) :=
  let cs := cs.dropWhile (· == '_')
  let cs :=
    match cs with
    | '+' :: rest => rest.dropWhile (· == '_')
    | '-' :: rest => rest.dropWhile (· == '_')
    | cs => cs
  if cs.head?.any isDecimal then some (cs.dropWhile isDecimalPart) else none

/-- Whether the text goes on with the letter of an exponent. -/
def beginsExponent (cs : List Char) : Bool :=
  cs.head?.any fun c => c == 'e' || c == 'E'

/-- Whether a point before this text ends a whole number and begins a fraction: no second point and
no name follows it. -/
def beginsFraction : List Char → Bool
  | [] => true
  | c :: _ => c != '.' && !Text.isIdentifierStart c

/-- What follows the digits of a number with a fraction or an exponent. -/
def afterFloat? (cs : List Char) : Option (List Char) :=
  if !cs.head?.any isDecimal then none
  else
    match cs.dropWhile isDecimalPart with
    | '.' :: rest =>
      if beginsFraction rest then
        let rest := rest.dropWhile isDecimalPart
        if beginsExponent rest then some ((afterExponent? (rest.drop 1)).getD rest) else some rest
      else
        none
    | rest => if beginsExponent rest then afterExponent? (rest.drop 1) else none

/-- What follows a suffix, if one stands at the head of the text. -/
def afterSuffix (cs : List Char) : List Char :=
  if cs.head?.any Text.isIdentifierStart then cs.dropWhile Text.isIdentifierContinue else cs

/-- What follows the suffix of a number, which nothing goes on. -/
def afterWhole? (cs : List Char) : Option (List Char) :=
  let rest := afterSuffix cs
  if rest.head?.any Text.isIdentifierContinue then none else some rest

/-- What follows a number. -/
def afterNumber? (cs : List Char) : Option (List Char) :=
  ((afterFloat? cs).bind afterWhole?).or ((afterInteger? cs).bind afterWhole?)

/-- The value of digits in this base; what is no digit counts for nothing. -/
def digitsValue (base : Nat) (cs : List Char) : Nat :=
  (cs.filterMap hexValue?).foldl (fun n d => base * n + d) 0

/-- The value of an integer, which may begin with the mark of its base. -/
def integerValue : List Char → Nat
  | '0' :: 'x' :: digits => digitsValue 16 digits
  | '0' :: 'o' :: digits => digitsValue 8 digits
  | '0' :: 'b' :: digits => digitsValue 2 digits
  | digits => digitsValue 10 digits

/-! ## §5 Literals -/

/-- What follows a text or a character, with its suffix. -/
def afterText? (cs : List Char) : Option (List Char) :=
  let quoted := fun content rest => afterQuoted? content (List.length rest) rest
  let found :=
    match cs with
    | '"' :: rest => quoted .text rest
    | 'b' :: '"' :: rest => quoted .bytes rest
    | 'c' :: '"' :: rest => quoted .zeroEnded rest
    | 'r' :: rest => afterSigns? .text rest
    | 'b' :: 'r' :: rest => afterSigns? .bytes rest
    | 'c' :: 'r' :: rest => afterSigns? .zeroEnded rest
    | 'b' :: rest => (afterApostrophe? rest).bind (afterCharacter? .bytes)
    | cs => (afterApostrophe? cs).bind (afterCharacter? .text)
  found.map afterSuffix

/-- **What follows a literal** at the head of a text, if one stands there. -/
def after? (cs : List Char) : Option (List Char) :=
  (afterText? cs).or (afterNumber? cs)

end TrackingPlan.Bindings.LiteralForm
