import TrackingPlan.Bindings.PatternGrammar

/-!
# Forms of expressions

Constants between angle brackets and the lengths of arrays are expressions.  The productions
recognise expressions without grouping them by precedence, which their text does not show, but for
ranges: nothing that binds closer follows one.  Where an expression stands before braces, a path in
it takes no fields.

§1 operators · §2 ranges · §3 what follows an operand · §4 code in braces · §5 closures ·
§6 values · §7 expressions.
-/

namespace TrackingPlan.Bindings.Piece

open Production

/-! ## §1 Operators -/

/-- The marks that change a place, longer ones before their beginnings. -/
def assignments : List String :=
  ["<<=", ">>=", "+=", "-=", "*=", "/=", "%=", "^=", "&=", "|="]

/-- The other marks between two operands, longer ones before their beginnings. -/
def operators : List String :=
  ["&&", "||", "<<", ">>", "==", "<=", "!=", ">=", "+", "-", "*", "/", "%", "^", "&", "|", "<", ">"]

/-- What an operator is applied to. -/
def operand (structures : Bool) : Piece :=
  symbol (.operand structures)

/-- An operator that binds closer than a range, with what follows it. -/
def closeOperation (structures : Bool) : Piece :=
  (fixed "as" ++ type false) <|>
    (notAhead (anyOf assignments) ++ anyOf operators ++ operand structures)

/-- An operator with what follows it.  An assignment takes a whole expression. -/
def operation (structures : Bool) : Piece :=
  closeOperation structures <|>
    (anyOf assignments ++ expression structures) <|>
    (notAhead (fixed "=>") ++ fixed "=" ++ expression structures)

/-! ## §2 Ranges -/

/-- What follows a range that is open at its end. -/
def pastOpenRange (structures : Bool) : Piece :=
  terminal .ending <|>
    anyOf [",", ";", "?", "=", "+", "/", "%", "^", ">", "<=", "!=", "-=", "*=", "&=", "|=", "<<=",
      "as"] <|>
    (notAhead (fixed "..") ++ fixed ".") <|>
    (if structures then notAhead empty else brackets .brace)

/-- The end of a range: an operand, with operators that bind closer. -/
def upTo (structures : Bool) : Piece :=
  andThenBy (operand structures) fun
    | .range => empty
    | _ => many (closeOperation structures)

/-- The points of a range, and its end. -/
def range (structures : Bool) : Piece :=
  shaped (some .range)
    (notAhead (fixed "...") ++
      ((fixed "..=" ++ upTo structures) <|>
        (fixed ".." ++ (ahead (pastOpenRange structures) <|> upTo structures))))

/-! ## §3 What follows an operand -/

/-- The operators after an operand of this shape, and the points that make it a range.  Nothing
follows a range or code in braces that is a whole statement. -/
def operationsAfter (structures : Bool) : Shape → Piece
  | .range => empty
  | .complete => empty
  | _ => shaped none (many (operation structures)) ++ opt (range structures)

/-- **The form of expressions.**  Its shape is that of its first operand, unless it is a range. -/
def expressionForm (structures : Bool) : Piece :=
  andThenBy (operand structures) (operationsAfter structures)

/-- What makes code in braces at the beginning of a statement part of an expression. -/
def beginsTrailer : Piece :=
  (notAhead (fixed "..") ++ fixed ".") <|> fixed "?"

/-- A part of a value, by its name or its position, or a method of it. -/
def member : Piece :=
  fixed "." ++ many (terminal .pointedPosition) ++
    (fixed "await" <|> terminal .position <|> (name ++ opt turbofish))

/-- What may follow a value as part of it. -/
def trailer : Piece :=
  plain
    (group .round (listOf (expression true)) <|>
      (notAhead (fixed "..") ++ member) <|>
      group .square (expression true) <|>
      fixed "?")

/-! ## §4 Code in braces -/

/-- Code in braces: it needs nothing between it and the next statement. -/
def compound : Piece :=
  symbol .compound

/-- Code that runs only if something holds. -/
def conditional : Piece :=
  symbol .conditional

/-- The form of conditionals. -/
def conditionalForm : Piece :=
  fixed "if" ++ expression false ++ block ++ opt (fixed "else" ++ (conditional <|> block))

/-- What begins a closure. -/
def beginsClosure : Piece :=
  anyOf ["|", "move", "static"] <|>
    (fixed "for <" ++ (lifetime <|> fixed ">")) <|>
    (fixed "const" ++ notAhead (brackets .brace)) <|>
    (fixed "async" ++ anyOf ["|", "move"])

/-- Code that runs again and again. -/
def repetition : Piece :=
  (fixed "while" ++ expression false ++ block) <|>
    (notAhead beginsClosure ++ fixed "for" ++ alternatives ++ fixed "in" ++ expression false ++
      block) <|>
    (fixed "loop" ++ block)

/-- The beginning of a statement or of the code for one shape of a value: code in braces, or an
operand. -/
def opening : Piece :=
  (shaped (some .complete) compound ++ opt (ahead beginsTrailer ++ many trailer)) <|> operand true

/-- Code for one shape of a value. -/
def arm : Piece :=
  attributes ++ alternatives ++ opt (fixed "if" ++ expression true) ++ fixed "=>" ++
    andThenBy (attributed attributes opening) (operationsAfter true) ++ opt (fixed ",")

/-- Code of which the first fitting arm runs. -/
def selection : Piece :=
  fixed "match" ++ expression false ++ group .brace (innerAttributes ++ many arm)

/-- The form of code in braces. -/
def compoundForm : Piece :=
  conditional <|>
    repetition <|>
    selection <|>
    markedBlock "unsafe" <|>
    markedBlock "try" <|>
    markedBlock "const" <|>
    block <|>
    (lifetime ++ fixed ":" ++ (repetition <|> block))

/-! ## §5 Closures -/

/-- The parameters of a closure.  The attributes of a range go around it, unless it has a type. -/
def closureParameters : Piece :=
  many (attributed attributes (pattern ++ opt (fixed ":" ++ type true)) ++
    (fixed "," <|> ahead (fixed "|")))

/-- A closure. -/
def closure (structures : Bool) : Piece :=
  ahead beginsClosure ++
    opt binder ++ opt (fixed "const") ++ opt (fixed "static") ++ opt (fixed "async") ++
    opt (fixed "move") ++ fixed "|" ++ closureParameters ++ fixed "|" ++
    ((fixed "->" ++ type true ++ block) <|> expression structures)

/-! ## §6 Values -/

/-- One field of a structure. -/
def fieldValue : Piece :=
  attributes ++
    ((terminal .position ++ fixed ":" ++ expression true) <|>
      (name ++ opt (fixed ":" ++ expression true)))

/-- The fields of a structure, and what the others are taken from. -/
def fieldValues : Piece :=
  many (notAhead (fixed "..") ++ fieldValue ++ (fixed "," <|> terminal .ending)) ++
    opt (fixed ".." ++ (terminal .ending <|> expression true))

/-- A value that begins with a path. -/
def namedValue (structures : Bool) : Piece :=
  codeCall <|>
    (valuePath ++ (if structures then opt (group .brace fieldValues) else empty))

/-- Values in square brackets, or one value and how often it stands there. -/
def array : Piece :=
  group .square (opt (expression true ++
    ((fixed ";" ++ expression true) <|> (fixed "," ++ listOf (expression true)) <|> empty)))

/-- What begins a value. -/
def beginsValue : Piece :=
  terminal .anyWord <|> anyBrackets <|> terminal .literal <|> lifetime <|>
    (notAhead (fixed "!=") ++ fixed "!") <|>
    (notAhead (anyOf ["-=", "->"]) ++ fixed "-") <|>
    (notAhead (fixed "*=") ++ fixed "*") <|>
    (notAhead (fixed "|=") ++ fixed "|") <|>
    (notAhead (fixed "&=") ++ fixed "&") <|>
    (notAhead (anyOf ["<=", "<<="]) ++ fixed "<") <|>
    anyOf ["..", "::", "#"]

/-- A word that leaves the code around it, with the value it leaves with. -/
def leaving (structures : Bool) : Piece :=
  let value := ahead beginsValue ++ expression true
  (fixed "break" ++ opt lifetime ++
      opt ((if structures then empty else notAhead (brackets .brace)) ++ value)) <|>
    (fixed "continue" ++ opt lifetime) <|>
    (anyOf ["return", "yield"] ++ opt value)

/-! ## §7 Expressions -/

/-- Code that runs later. -/
def asyncBlock : Piece :=
  attempt (fixed "async" ++ opt (fixed "move") ++ ahead (brackets .brace)) ++ block

/-- A value that the language has a word for, spelled as it stands. -/
def builtIn : Piece :=
  ahead (fixed "builtin #") ++ verbatim (fixed "builtin #" ++ name ++ brackets .round)

/-- An expression without operators around it. -/
def atom (structures : Bool) : Piece :=
  plain (unsignedLiteral <|> asyncBlock <|> closure structures) <|>
    builtIn <|>
    verbatim (fixed "become" ++ expression true) <|>
    range structures <|>
    plain
      (group .round (listOf (expression true)) <|>
        array <|>
        leaving structures <|>
        (fixed "let" ++ alternatives ++ fixed "=" ++ operand structures) <|>
        compound <|>
        fixed "_" <|>
        namedValue structures)

/-- The mark of a reference to a place. -/
def placeMark : Piece :=
  attempt (fixed "raw" ++ ahead (anyOf ["const", "mut"])) ++ opt (fixed "const")

/-- **The form of operands.**  One that is spelled as it stands keeps its attributes so. -/
def operandForm (structures : Bool) : Piece :=
  let marked := (fixed "&" ++ opt placeMark ++ opt (fixed "mut") ++ operand structures) <|>
    (anyOf ["*", "!", "-"] ++ operand structures)
  let whole := andThenBy (atom structures) fun
    | .range => empty
    | _ => many trailer
  asWritten (attributes ++ (plain marked <|> whole))

end TrackingPlan.Bindings.Piece
