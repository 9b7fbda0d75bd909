import TrackingPlan.Bindings.LiteralForm
import TrackingPlan.Bindings.Token
import TrackingPlan.Text.Blank

/-!
# Lexemes of a name or a path that is given as text

The name of the client and the path of the library come from options, as text in the emitted
language.  A text falls into identifiers, lifetimes, literals, marks of one character and groups in
brackets; blanks and comments separate them.  A comment that documents something stands for an
attribute.

§1 lexemes · §2 blanks and comments · §3 words and marks · §4 the lexemes of a text · §5 tokens.
-/

namespace TrackingPlan.Bindings

open LiteralForm (apostrophe)

/-! ## §1 Lexemes -/

/-- **A lexeme.**  A mark is *joined* when another mark follows it directly. -/
inductive Lexeme where
  | ident (name : Identifier)
  | lifetime (name : String)
  | literal (text : String)
  | mark (c : Char) (joined : Bool)
  | group (d : Delimiter) (body : List Lexeme)

namespace Lexeme

/-- The marks. -/
def marks : List Char :=
  "~!@#$%^&*-=+|;:,<.>/?".toList ++ [apostrophe]

/-- The bracket that a character opens. -/
def opened? (c : Char) : Option Delimiter :=
  if c == '(' then some .round
  else if c == '[' then some .square
  else if c == '\x7b' then some .brace
  else none

/-- The bracket that a character closes. -/
def closed? (c : Char) : Option Delimiter :=
  if c == ')' then some .round
  else if c == ']' then some .square
  else if c == '\x7d' then some .brace
  else none

/-! ## §2 Blanks and comments -/

/-- Whether the character separates lexemes: white space, and the marks of writing direction. -/
def isSeparator (c : Char) : Bool :=
  Text.isBlank c || c.toNat == 0x200E || c.toNat == 0x200F

/-- What a line comment says, and what follows it.  A carriage return before the end of the line
belongs to the end. -/
def lineComment : List Char → List Char × List Char
  | [] => ([], [])
  | '\n' :: rest => ([], '\n' :: rest)
  | '\r' :: '\n' :: rest => ([], '\n' :: rest)
  | c :: rest =>
    let (said, after) := lineComment rest
    (c :: said, after)

/-- What a block comment says up to its last mark, and what follows it, given how many comments are
open. -/
def blockComment? : Nat → List Char → Option (List Char × List Char)
  | depth, '/' :: '*' :: rest =>
    (blockComment? (depth + 1) rest).map fun (said, rest) => ('/' :: '*' :: said, rest)
  | depth, '*' :: '/' :: rest =>
    if depth ≤ 1 then some ([], rest)
    else (blockComment? (depth - 1) rest).map fun (said, rest) => ('*' :: '/' :: said, rest)
  | depth, c :: rest => (blockComment? depth rest).map fun (said, rest) => (c :: said, rest)
  | _, [] => none

/-- **A comment.**  One that documents says what, and whether it documents the thing around it. -/
inductive Comment where
  | plain
  | doc (said : List Char) (within : Bool)

/-- What a comment that says this and ends in `ending` is, if `mark` is the character that marks a
comment about what follows.  Twice the mark does not document. -/
def Comment.of (mark : Char) (said ending : List Char) : Comment :=
  match said with
  | '!' :: rest => .doc rest true
  | c :: rest =>
    if c == mark && (rest ++ ending).head? != some mark then .doc rest false else .plain
  | [] => .plain

/-- The comment at the head of the text, and what follows it.  A comment that does not end is
none. -/
def comment? : List Char → Option (Comment × List Char)
  | '/' :: '/' :: rest =>
    let (said, rest) := lineComment rest
    some (.of '/' said [], rest)
  | '/' :: '*' :: '*' :: '/' :: rest => some (.plain, rest)
  | '/' :: '*' :: rest =>
    (blockComment? 1 rest).map fun (said, rest) => (.of '*' said ['*', '/'], rest)
  | _ => none

/-- Whether every carriage return is followed by a line feed. -/
def hasWholeLineEnds : List Char → Bool
  | [] => true
  | '\r' :: '\n' :: rest => hasWholeLineEnds rest
  | '\r' :: _ => false
  | _ :: rest => hasWholeLineEnds rest

/-- The attribute that a comment stands for, if it documents something. -/
def Comment.lexemes? : Comment → Option (List Lexeme)
  | .plain => some []
  | .doc said within =>
    if hasWholeLineEnds said then
      some ([.mark '#' false] ++ (if within then [.mark '!' false] else []) ++
        [.group .square
          [.ident ⟨"doc", false⟩, .mark '=' false, .literal (quote (String.ofList said))]])
    else
      none

/-! ## §3 Words and marks -/

/-- The characters of a name at the head of the text, and what follows them. -/
def nameChars (cs : List Char) : List Char × List Char :=
  (cs.takeWhile Text.isIdentifierContinue, cs.dropWhile Text.isIdentifierContinue)

/-- The identifier at the head of the text, possibly raw. -/
def identifier? (cs : List Char) : Option (Identifier × List Char) :=
  match cs with
  | 'r' :: '#' :: rest =>
    let (name, rest) := nameChars rest
    (Identifier.raw? (String.ofList name)).map fun i => (i, rest)
  | c :: _ =>
    if Text.isIdentifierStart c then
      let (name, rest) := nameChars cs
      some (⟨String.ofList name, false⟩, rest)
    else
      none
  | [] => none

/-- What begins a text in quotes and hence no word. -/
def quoteMarks : List (List Char) :=
  [['r', '"'], ['r', '#', '"'], ['r', '#', '#'], ['b', '"'], ['b', apostrophe], ['b', 'r', '"'],
    ['b', 'r', '#'], ['c', '"'], ['c', 'r', '"'], ['c', 'r', '#']]

/-- The word at the head of the text. -/
def word? (cs : List Char) : Option (Lexeme × List Char) :=
  if quoteMarks.any (·.isPrefixOf cs) then none
  else (identifier? cs).map fun (i, rest) => (.ident i, rest)

/-- Whether a mark stands at the head of the text. -/
def beginsMark : List Char → Bool
  | '/' :: '/' :: _ => false
  | '/' :: '*' :: _ => false
  | cs => cs.head?.any marks.contains

/-- The lifetime after an apostrophe.  No apostrophe follows it, and no number sign unless it is
raw. -/
def lifetime? (cs : List Char) : Option (Lexeme × List Char) :=
  match identifier? cs with
  | none => none
  | some (i, rest) =>
    if rest.head? == some apostrophe || (rest.head? == some '#' && !i.raw) then none
    else some (.lifetime (String.ofList (apostrophe :: i.text.toList)), rest)

/-- The mark or the lifetime at the head of the text. -/
def mark? (cs : List Char) : Option (Lexeme × List Char) :=
  match cs with
  | [] => none
  | c :: rest =>
    if !beginsMark cs then none
    else if c == apostrophe then lifetime? rest
    else some (.mark c (beginsMark rest), rest)

/-- The literal at the head of the text. -/
def literal? (cs : List Char) : Option (Lexeme × List Char) :=
  (LiteralForm.after? cs).map fun rest =>
    (.literal (String.ofList (cs.take (cs.length - rest.length))), rest)

/-- The lexeme at the head of a text that begins with no blank, no comment and no bracket. -/
def single? (cs : List Char) : Option (Lexeme × List Char) :=
  ((literal? cs).or (mark? cs)).or (word? cs)

/-! ## §4 The lexemes of a text -/

/-- **What has been read of a text**: the lexemes of the innermost bracket that is open, and for
each open bracket its kind and the lexemes before it, the last lexemes first. -/
structure Draft where
  done : List Lexeme := []
  around : List (Delimiter × List Lexeme) := []

/-- The draft with more lexemes. -/
def Draft.add (d : Draft) (ls : List Lexeme) : Draft :=
  { d with done := ls.reverse ++ d.done }

/-- The draft with a bracket open. -/
def Draft.enter (d : Draft) (bracket : Delimiter) : Draft :=
  { around := (bracket, d.done) :: d.around }

/-- The draft with its innermost bracket closed, if it is of this kind. -/
def Draft.leave? (d : Draft) (bracket : Delimiter) : Option Draft :=
  match d.around with
  | [] => none
  | (opener, before) :: around =>
    if opener == bracket then some ⟨.group bracket d.done.reverse :: before, around⟩ else none

/-- The draft after one piece of a text that is not empty, and the text after the piece. -/
def step? (d : Draft) (cs : List Char) : Option (Draft × List Char) :=
  match cs with
  | [] => none
  | c :: rest =>
    if isSeparator c then some (d, rest)
    else
      match comment? cs, opened? c, closed? c with
      | some (comment, after), _, _ => comment.lexemes?.map fun ls => (d.add ls, after)
      | _, some bracket, _ => some (d.enter bracket, rest)
      | _, _, some bracket => (d.leave? bracket).map fun d => (d, rest)
      | _, _, _ => (single? cs).map fun (l, after) => (d.add [l], after)

/-- The lexemes of the rest of a text.  Every step takes a character, so the length of the text is
fuel enough. -/
def complete? : Nat → Draft → List Char → Option (List Lexeme)
  | _, d, [] => if d.around.isEmpty then some d.done.reverse else none
  | 0, _, _ => none
  | fuel + 1, d, cs =>
    match step? d cs with
    | none => none
    | some (d, rest) => complete? fuel d rest

/-- The text without a byte order mark before it. -/
def withoutByteOrderMark : List Char → List Char
  | [] => []
  | c :: rest => if c.toNat == 0xFEFF then rest else c :: rest

/-- **The lexemes of a text**, if it falls into lexemes and its brackets match. -/
def ofText? (text : String) : Option (List Lexeme) :=
  let cs := withoutByteOrderMark text.toList
  complete? cs.length {} cs

/-! ## §5 Tokens -/

mutual
/-- **The lexeme as a token**, spelled as it stands: what follows a joined mark follows directly. -/
def token : Lexeme → Token
  | .ident i => .ident i
  | .lifetime name => .mark name
  | .literal text => .mark text
  | .mark c joined => if joined then .tight c.toString else .mark c.toString
  | .group d body => .group d (tokens body)
termination_by structural l => l

/-- **Lexemes as tokens**, spelled as they stand. -/
def tokens : List Lexeme → List Token
  | [] => []
  | l :: rest => l.token :: tokens rest
termination_by structural ls => ls
end

end Lexeme

end TrackingPlan.Bindings
