import TrackingPlan.Bindings.Lexeme
import TrackingPlan.Schema.Error

/-!
# Grammars over lexemes

A grammar gives each of its symbols a production.  A production reads lexemes from the head of a
list and spells what it read as tokens.  A choice is ordered, and its second production is tried
only where the first has not begun to read; a production that may give up later says so
(`Production.attempt`), and so does one that has to read (`Production.required`).  What was read has
a *shape*, which may decide how to go on (`Production.andThenBy`) and how the whole is spelled
(`Production.attributed`, `Production.asWritten`).  What is left over between brackets does not stop
a reading: a reading tells whether there is any.

§1 terminals · §2 shapes and readings · §3 productions · §4 arguments · §5 reading by a grammar.
-/

namespace TrackingPlan.Bindings

/-! ## §1 Terminals -/

/-- The keywords that no name can be, unless it is raw. -/
def reservedWords : List String :=
  ["_", "abstract", "as", "async", "await", "become", "box", "break", "const", "continue",
    "crate", "do", "dyn", "else", "enum", "extern", "false", "final", "fn", "for", "if", "impl",
    "in", "let", "loop", "macro", "match", "mod", "move", "mut", "override", "priv", "pub", "ref",
    "return", "Self", "self", "static", "struct", "super", "trait", "true", "try", "type",
    "typeof", "unsafe", "unsized", "use", "virtual", "where", "while", "yield"]

/-- **A terminal**: what is read without reference to other productions.  A position counts the
parts of a value; one with a point after it comes before a further part. -/
inductive Terminal where
  | word (text : String)
  | mark (text : String)
  | anyWord
  | name
  | lifetime
  | literal
  | numeral
  | position
  | pointedPosition
  | written (d : Delimiter)
  | ending

namespace Lexeme

/-- What follows these marks at the head of the lexemes; all but the last are joined. -/
def afterMarks? : List Char → List Lexeme → Option (List Lexeme)
  | [c], .mark d _ :: rest => if c == d then some rest else none
  | c :: cs, .mark d true :: rest => if c == d then afterMarks? cs rest else none
  | _, _ => none

/-- Whether the text of a literal is that of a number. -/
def isNumeral (text : String) : Bool :=
  text.toList.head?.any LiteralForm.isDecimal

/-- Whether the text of a literal is that of a number that ends in a point. -/
def isPointed (text : String) : Bool :=
  isNumeral text && text.toList.getLast? == some '.'

/-- The positions that a number stands for, as decimal numbers with points between them. -/
def positions (text : String) : List Token :=
  let parts := (text.splitOn ".").filter (!·.isEmpty)
  (parts.map fun part => .mark (toString (LiteralForm.integerValue part.toList))).intersperse
    (.mark ".")

/-- The fault where something else is expected. -/
def unexpected : List Lexeme → SyntaxFault
  | [] => .endOfInput
  | _ => .trailing

/-- The fault where a name is expected. -/
def notName : List Lexeme → SyntaxFault
  | [] => .endOfInput
  | .ident i :: _ => .keyword i.text
  | _ => .notIdentifier

end Lexeme

open Lexeme (afterMarks? isNumeral isPointed positions unexpected notName)

/-! ## §2 Shapes and readings -/

/-- **The shape of what was read**, where it matters: spelled as it stands, a range, code in braces
that is a whole statement, a lifetime, a segment of a path with arguments, the types that a call
takes without the one that it gives, a path as a type, a bound as a type, a bound that is not
required, several types, or something between round brackets. -/
inductive Shape where
  | plain
  | written
  | range
  | complete
  | lifetime
  | applied
  | called
  | path
  | bound
  | weak
  | several
  | around (inner : Shape)
deriving DecidableEq

/-- **A reading**: the tokens for what was read, how many lexemes that was, what follows them,
whether anything was left over between brackets, and the shape. -/
structure Reading where
  tokens : List Token
  count : Nat
  rest : List Lexeme
  stray : Bool
  shape : Option Shape

namespace Reading

/-- Nothing was read. -/
def nothing (ls : List Lexeme) : Reading :=
  ⟨[], 0, ls, false, none⟩

/-- A number of lexemes was read. -/
def of (tokens : List Token) (count : Nat) (rest : List Lexeme) : Reading :=
  ⟨tokens, count, rest, false, Shape.plain⟩

/-- One reading after another; its shape is that of the last one that has a shape. -/
def append (first second : Reading) : Reading :=
  ⟨first.tokens ++ second.tokens, first.count + second.count, second.rest,
    first.stray || second.stray, second.shape.or first.shape⟩

/-- The shape, if it matters. -/
def kind (r : Reading) : Shape :=
  r.shape.getD .plain

/-- What stands between brackets as a part of what is around them. -/
def enclosed (inner : Reading) (tokens : List Token) (rest : List Lexeme) : Reading :=
  ⟨tokens, 1, rest, inner.stray || !inner.rest.isEmpty, Shape.around inner.kind⟩

/-- Attributes before what they are about.  A range gets brackets, for else they would be about its
beginning; what is spelled as it stands has none. -/
def attributed (attributes subject : Reading) : Reading :=
  let tokens :=
    match subject.kind with
    | .written => subject.tokens
    | .range =>
      if attributes.count == 0 then subject.tokens
      else attributes.tokens ++ [.group .round subject.tokens]
    | _ => attributes.tokens ++ subject.tokens
  { attributes.append subject with tokens }

/-- The reading of these lexemes, spelled as they stand if its shape says so. -/
def asWritten (r : Reading) (ls : List Lexeme) : Reading :=
  if r.kind = .written then { r with tokens := Lexeme.tokens (ls.take r.count) } else r

end Reading

/-- **What a terminal reads.** -/
def Terminal.read : Terminal → List Lexeme → Except SyntaxFault Reading
  | .word text, .ident i :: rest =>
    if i.text == text then .ok (.of [.ident i] 1 rest) else .error .trailing
  | .mark text, ls =>
    match afterMarks? text.toList ls with
    | some rest => .ok (.of [.mark text] text.length rest)
    | none => .error (unexpected ls)
  | .anyWord, .ident i :: rest => .ok (.of [.ident i] 1 rest)
  | .name, ls =>
    match ls with
    | .ident i :: rest =>
      if reservedWords.contains i.text then .error (notName ls)
      else .ok (.of [.ident i] 1 rest)
    | _ => .error (notName ls)
  | .lifetime, .lifetime text :: rest => .ok (.of [.mark text] 1 rest)
  | .literal, .literal text :: rest => .ok (.of [.mark text] 1 rest)
  | .numeral, .literal text :: rest =>
    if isNumeral text then .ok (.of [.mark text] 1 rest) else .error .trailing
  | .position, .literal text :: rest =>
    if isNumeral text && !isPointed text then .ok (.of (positions text) 1 rest)
    else .error .trailing
  | .pointedPosition, .literal text :: rest =>
    if isPointed text then .ok (.of (positions text ++ [.mark "."]) 1 rest) else .error .trailing
  | .written d, .group e body :: rest =>
    if d == e then .ok (.of [.group d (Lexeme.tokens body)] 1 rest) else .error .trailing
  | .ending, [] => .ok (.nothing [])
  | _, ls => .error (unexpected ls)

/-! ## §3 Productions -/

/-- **A production** of a grammar with symbols in `σ`.  `andThenBy` goes on as the shape of what was
read says, and `inside` leaves the brackets out; `ahead` and `notAhead` read nothing, `silent`
spells nothing, and `insert` spells what was not read; `shaped` gives a shape, or takes it away;
`arguments` reads up to the mark that closes them. -/
inductive Production (σ : Type) where
  | empty
  | terminal (t : Terminal)
  | symbol (s : σ)
  | andThen (first second : Production σ)
  | andThenBy (first : Production σ) (next : Shape → Production σ)
  | orElse (first second : Production σ)
  | many (item : Production σ)
  | group (d : Delimiter) (body : Production σ)
  | inside (d : Delimiter) (body : Production σ)
  | ahead (p : Production σ)
  | notAhead (p : Production σ)
  | attempt (p : Production σ)
  | required (p : Production σ)
  | silent (p : Production σ)
  | insert (tokens : List Token)
  | shaped (shape : Option Shape) (p : Production σ)
  | asWritten (p : Production σ)
  | attributed (attributes subject : Production σ)
  | arguments (item : Production σ)

/-- **A grammar**: a production for every symbol. -/
abbrev Grammar (σ : Type) := σ → Production σ

namespace Production

variable {σ : Type}

instance : Append (Production σ) := ⟨andThen⟩

instance : OrElse (Production σ) := ⟨fun first second => orElse first (second ())⟩

/-- Fixed words and marks, given with blanks between them. -/
def fixed (text : String) : Production σ :=
  (text.splitOn " ").foldr
    (fun t p =>
      let isWord := t.toList.head?.any fun c => c.isAlpha || c == '_'
      terminal (if isWord then .word t else .mark t) ++ p)
    empty

/-- The first of fixed pieces that stands there. -/
def anyOf (texts : List String) : Production σ :=
  match texts with
  | [] => notAhead empty
  | text :: rest => fixed text <|> anyOf rest

/-- A piece that may be absent. -/
def opt (p : Production σ) : Production σ :=
  p <|> empty

/-- Pieces up to the end, a comma after each but possibly the last. -/
def listOf (item : Production σ) : Production σ :=
  many (notAhead (terminal .ending) ++ required (item ++ (fixed "," <|> terminal .ending)))

/-- A piece of a shape that does not matter. -/
def plain (p : Production σ) : Production σ :=
  shaped (some .plain) p

/-- A piece that is spelled as it stands. -/
def verbatim (p : Production σ) : Production σ :=
  asWritten (shaped (some .written) p)

end Production

/-- Why a production does not read, and whether it had begun to. -/
structure Stop where
  fault : SyntaxFault
  begun : Bool

/-- The stop as one of something that comes after other lexemes, if `begun`. -/
def Stop.after (begun : Bool) (stop : Stop) : Stop :=
  { stop with begun := stop.begun || begun }

/-! ## §4 Arguments -/

/-- An argument between angle brackets, and whether a comma follows it. -/
structure AngleArgument where
  tokens : List Token
  isLifetime : Bool
  hasComma : Bool

/-- Arguments in this order; where one before another lacks its comma it gets one. -/
def spellInOrder : List AngleArgument → List Token
  | [] => []
  | [a] => a.tokens ++ (if a.hasComma then code "," else [])
  | a :: b :: rest => a.tokens ++ code "," ++ spellInOrder (b :: rest)

/-- **Arguments as tokens**: lifetimes come before the others. -/
def spellArguments (args : List AngleArgument) : List Token :=
  spellInOrder (args.filter (·.isLifetime) ++ args.filter (!·.isLifetime))

/-- **Arguments that were read**, how many lexemes that was, what follows them, and whether anything
was left over between brackets. -/
structure ArgumentsReading where
  args : List AngleArgument
  count : Nat
  rest : List Lexeme
  stray : Bool

/-- The arguments with one more before them. -/
def ArgumentsReading.cons (r : Reading) (hasComma : Bool) (others : ArgumentsReading) :
    ArgumentsReading :=
  ⟨⟨r.tokens, r.kind = .lifetime, hasComma⟩ :: others.args,
    r.count + (if hasComma then 1 else 0) + others.count, others.rest, r.stray || others.stray⟩

/-- The arguments as a part of what is around them. -/
def ArgumentsReading.toReading (r : ArgumentsReading) : Reading :=
  ⟨spellArguments r.args, r.count, r.rest, r.stray, Shape.plain⟩

/-! ## §5 Reading by a grammar -/

variable {σ : Type}

mutual
/-- **What a production reads.**  The first argument bounds how deep productions stand in one
another. -/
def Production.read (g : Grammar σ) :
    Nat → Production σ → List Lexeme → Except Stop Reading
  | 0, _, ls => .error ⟨unexpected ls, true⟩
  | fuel + 1, p, ls =>
    match p with
    | .empty => .ok (.nothing ls)
    | .terminal t =>
      match t.read ls with
      | .ok r => .ok r
      | .error fault => .error ⟨fault, false⟩
    | .symbol s => (g s).read g fuel ls
    | .andThen first second =>
      match first.read g fuel ls with
      | .error stop => .error stop
      | .ok r =>
        match second.read g fuel r.rest with
        | .error stop => .error (stop.after (r.count != 0))
        | .ok more => .ok (r.append more)
    | .andThenBy first next =>
      match first.read g fuel ls with
      | .error stop => .error stop
      | .ok r =>
        match (next r.kind).read g fuel r.rest with
        | .error stop => .error (stop.after (r.count != 0))
        | .ok more => .ok (r.append more)
    | .orElse first second =>
      match first.read g fuel ls with
      | .ok r => .ok r
      | .error stop => if stop.begun then .error stop else second.read g fuel ls
    | .many item =>
      match item.read g fuel ls with
      | .error stop => if stop.begun then .error stop else .ok (.nothing ls)
      | .ok r =>
        if r.count == 0 then .ok r
        else
          match (Production.many item).read g fuel r.rest with
          | .error stop => .error (stop.after true)
          | .ok more => .ok (r.append more)
    | .group d body =>
      match body.readGroup g fuel d ls with
      | .error stop => .error stop
      | .ok (inner, rest) => .ok (inner.enclosed [.group d inner.tokens] rest)
    | .inside d body =>
      match body.readGroup g fuel d ls with
      | .error stop => .error stop
      | .ok (inner, rest) => .ok (inner.enclosed inner.tokens rest)
    | .ahead p =>
      match p.read g fuel ls with
      | .ok _ => .ok (.nothing ls)
      | .error stop => .error { stop with begun := false }
    | .notAhead p =>
      match p.read g fuel ls with
      | .ok _ => .error ⟨unexpected ls, false⟩
      | .error _ => .ok (.nothing ls)
    | .attempt p =>
      match p.read g fuel ls with
      | .ok r => .ok r
      | .error stop => .error { stop with begun := false }
    | .required p =>
      match p.read g fuel ls with
      | .ok r => .ok r
      | .error stop => .error { stop with begun := true }
    | .silent p =>
      match p.read g fuel ls with
      | .ok r => .ok { r with tokens := [] }
      | .error stop => .error stop
    | .insert tokens => .ok { Reading.nothing ls with tokens }
    | .shaped shape p =>
      match p.read g fuel ls with
      | .ok r => .ok { r with shape }
      | .error stop => .error stop
    | .asWritten p =>
      match p.read g fuel ls with
      | .ok r => .ok (r.asWritten ls)
      | .error stop => .error stop
    | .attributed attributes subject =>
      match attributes.read g fuel ls with
      | .error stop => .error stop
      | .ok r =>
        match subject.read g fuel r.rest with
        | .error stop => .error (stop.after (r.count != 0))
        | .ok more => .ok (r.attributed more)
    | .arguments item =>
      match item.readArguments g fuel ls with
      | .ok r => .ok r.toReading
      | .error stop => .error stop

/-- What a production reads between brackets, and what follows them. -/
def Production.readGroup (g : Grammar σ) :
    Nat → Production σ → Delimiter → List Lexeme → Except Stop (Reading × List Lexeme)
  | 0, _, _, ls => .error ⟨unexpected ls, true⟩
  | fuel + 1, body, d, ls =>
    match ls with
    | .group e inner :: rest =>
      if d == e then
        match body.read g fuel inner with
        | .ok r => .ok (r, rest)
        | .error stop => .error { stop with begun := true }
      else
        .error ⟨.trailing, false⟩
    | _ => .error ⟨unexpected ls, false⟩

/-- The arguments up to the mark that closes them. -/
def Production.readArguments (g : Grammar σ) :
    Nat → Production σ → List Lexeme → Except Stop ArgumentsReading
  | 0, _, ls => .error ⟨unexpected ls, true⟩
  | fuel + 1, item, ls =>
    if (afterMarks? ['>'] ls).isSome then .ok ⟨[], 0, ls, false⟩
    else
      match item.read g fuel ls with
      | .error stop => .error stop
      | .ok r =>
        if (afterMarks? ['>'] r.rest).isSome then .ok (.cons r false ⟨[], 0, r.rest, false⟩)
        else
          match afterMarks? [','] r.rest with
          | none => .error ⟨unexpected r.rest, true⟩
          | some rest =>
            match item.readArguments g fuel rest with
            | .error stop => .error stop
            | .ok others => .ok (.cons r true others)
end

end TrackingPlan.Bindings
