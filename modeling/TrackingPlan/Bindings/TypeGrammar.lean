import TrackingPlan.Bindings.Grammar

/-!
# Forms of paths and types

A path is made of segments with `::` between them and possibly before them; a segment may have
arguments in angle brackets, which are lifetimes, constants and types.  Within an expression the
arguments need `::` before them.

§1 symbols · §2 literals and attributes · §3 paths · §4 parameters of types · §5 bounds ·
§6 functions · §7 types.
-/

namespace TrackingPlan.Bindings

/-! ## §1 Symbols -/

/-- **The symbols of the grammar of paths.**  A type may be a sum of bounds or not; in an expression
a path may take fields in braces or not. -/
inductive Symbol where
  | path (inExpression : Bool)
  | callTypes
  | typeParameter
  | bound
  | type (sums : Bool)
  | pattern
  | expression (structures : Bool)
  | operand (structures : Bool)
  | conditional
  | compound
  | block
  | importTree
  | item

/-- **A piece of a path**: a production of its grammar. -/
abbrev Piece := Production Symbol

namespace Piece

open Production

/-- A name. -/
def name : Piece :=
  terminal .name

/-- A lifetime. -/
def lifetime : Piece :=
  terminal .lifetime

/-- A path. -/
def path (inExpression : Bool) : Piece :=
  symbol (.path inExpression)

/-- A type. -/
def type (sums : Bool) : Piece :=
  symbol (.type sums)

/-- A bound. -/
def bound : Piece :=
  symbol .bound

/-- A pattern without alternatives. -/
def pattern : Piece :=
  symbol .pattern

/-- An expression. -/
def expression (structures : Bool) : Piece :=
  symbol (.expression structures)

/-- Statements in braces. -/
def block : Piece :=
  group .brace (symbol .block)

/-- Brackets of this kind, with what stands between them. -/
def brackets (d : Delimiter) : Piece :=
  terminal (.written d)

/-- Any brackets, with what stands between them. -/
def anyBrackets : Piece :=
  brackets .round <|> brackets .square <|> brackets .brace

/-! ## §2 Literals and attributes -/

/-- A literal without a sign. -/
def unsignedLiteral : Piece :=
  terminal .literal <|> fixed "true" <|> fixed "false"

/-- A literal; a number may have a sign. -/
def signedLiteral : Piece :=
  unsignedLiteral <|> attempt (fixed "-" ++ terminal .numeral)

/-- A constant as an argument: a literal, or a block. -/
def constant : Piece :=
  signedLiteral <|> block

/-- A path of these names, without arguments. -/
def plainPathOf (segment : Piece) : Piece :=
  opt (fixed "::") ++ segment ++ many (fixed "::" ++ segment)

/-- A path without arguments. -/
def plainPath : Piece :=
  plainPathOf (anyOf ["super", "self", "crate", "Self"] <|> name)

/-- The inside of an attribute. -/
def attributeBody : Piece :=
  (fixed "unsafe" <|> plainPath) ++ (anyBrackets <|> (fixed "=" ++ expression true) <|> empty)

/-- Attributes of what follows. -/
def attributes : Piece :=
  many (fixed "#" ++ group .square attributeBody)

/-- What stands after attributes, which are not read. -/
def pastAttributes (p : Piece) : Piece :=
  many (fixed "#" ++ brackets .square) ++ p

/-- Attributes of what is around. -/
def innerAttributes : Piece :=
  many (attempt (fixed "# !") ++ group .square attributeBody)

/-- The mark that calls code. -/
def codeMark : Piece :=
  notAhead (fixed "!=") ++ fixed "!"

/-- A path to code, and the mark that calls it. -/
def codeName : Piece :=
  plainPathOf (anyOf ["super", "self", "crate", "Self", "try"] <|> name) ++ codeMark

/-- A path to code that is called with anything in brackets. -/
def codeCall : Piece :=
  ahead codeName ++ codeName ++ anyBrackets

/-! ## §3 Paths -/

/-- The end of an argument. -/
def argumentEnd : Piece :=
  ahead (fixed "," <|> fixed ">")

/-- What follows the name of a type: its value, or its bounds, which may be none. -/
def association : Piece :=
  (fixed "=" ++ (constant <|> type true)) <|>
    (fixed ":" ++
      (argumentEnd <|> (bound ++ many (fixed "+" ++ (argumentEnd <|> bound)))))

/-- One argument: a lifetime, a constant, a type, or a name that is given one of them. -/
def argument : Piece :=
  shaped (some .lifetime) (attempt (lifetime ++ notAhead (fixed "+"))) <|>
    plain constant <|>
    plain (type true ++ opt association)

/-- Arguments in angle brackets. -/
def angleArguments : Piece :=
  shaped (some .applied) (fixed "<" ++ arguments argument ++ fixed ">")

/-- Arguments in angle brackets after a double colon. -/
def turbofish : Piece :=
  ahead (fixed ":: <") ++ fixed "::" ++ angleArguments

/-- Angle brackets around nothing.  Before the types that a call takes they are left out. -/
def noArguments : Piece :=
  attempt (silent (opt (fixed "::") ++ fixed "< >") ++ ahead (opt (fixed "::") ++ brackets .round))

/-- The arguments of a segment, if it has any.  A comparison is no angle bracket. -/
def segmentArguments (inExpression : Bool) : Piece :=
  if inExpression then opt turbofish
  else
    noArguments <|> turbofish <|>
      opt (notAhead (fixed "<=") ++ notAhead (fixed "<<=") ++ angleArguments)

/-- One segment, with its arguments. -/
def segment (inExpression : Bool) : Piece :=
  anyOf ["super", "self", "crate", "try"] <|>
    ((fixed "Self" <|> name) ++ segmentArguments inExpression)

/-- A double colon with round brackets after it, which ends a path. -/
def colonsBeforeCall : Piece :=
  fixed "::" ++ brackets .round

/-- A further segment. -/
def furtherSegment (inExpression : Bool) : Piece :=
  notAhead colonsBeforeCall ++ fixed "::" ++ segment inExpression

/-- The form of paths.  Its shape tells whether the last segment has arguments. -/
def pathForm (inExpression : Bool) : Piece :=
  opt (fixed "::") ++ segment inExpression ++ many (furtherSegment inExpression)

/-- A path below a type in angle brackets, possibly as the type of a trait. -/
def qualifiedPath (inExpression : Bool) : Piece :=
  fixed "<" ++ type true ++ opt (fixed "as" ++ path false) ++ fixed ">" ++ fixed "::" ++
    segment inExpression ++ many (fixed "::" ++ segment inExpression)

/-! ## §4 Parameters of types -/

/-- Bounds after a colon, with plus signs between them and possibly after the last.  Without a bound
there is no colon. -/
def boundsAfterColon (item : Piece) (last : Piece) : Piece :=
  attempt (silent (fixed ":") ++ ahead last) <|>
    opt (fixed ":" ++ item ++ many (fixed "+" ++ (ahead last <|> item)))

/-- A lifetime, a type or a constant as a parameter. -/
def typeParameterForm : Piece :=
  let last := anyOf [",", ">", "="]
  attributes ++
    (shaped (some .lifetime) (lifetime ++ boundsAfterColon lifetime last) <|>
      plain ((fixed "_" <|> name) ++ boundsAfterColon bound last ++
        opt (fixed "=" ++ type true)) <|>
      plain (fixed "const" ++ name ++ fixed ":" ++ type true ++
        opt (fixed "=" ++ (constant <|> name))))

/-- A parameter of a type or a function. -/
def typeParameter : Piece :=
  symbol .typeParameter

/-- The parameters that a bound, a function or a closure introduces. -/
def binder : Piece :=
  fixed "for <" ++ many (typeParameter ++ (fixed "," <|> ahead (fixed ">"))) ++ fixed ">"

/-! ## §5 Bounds -/

/-- The type that a call gives. -/
def returnType (sums : Bool) : Piece :=
  opt (fixed "->" ++ type sums)

/-- The types that a call takes and gives. -/
def signature : Piece :=
  shaped (some .called) (group .round (listOf (type true))) ++ returnType false

/-- The types of a call, after a path of this shape: its last segment must have no arguments. -/
def callAfter : Shape → Piece
  | .applied => empty
  | _ => opt (symbol .callTypes)

/-- Whether further segments may follow the types of a call: it gives none, or one in brackets. -/
def allowsSegments : Shape → Bool
  | .called => true
  | .around .weak => false
  | .around .several => false
  | .around _ => true
  | _ => false

/-- The form of the types of a call in a type, which may go on below the type that the call
gives. -/
def callTypesForm : Piece :=
  andThenBy signature fun shape =>
    if allowsSegments shape then
      opt (andThenBy (furtherSegment false ++ many (furtherSegment false)) callAfter)
    else
      empty

/-- A path in a type, where a call may take and give types. -/
def typePath : Piece :=
  andThenBy (path false) callAfter

/-- The mark of a trait for constants. -/
def constantMark : Piece :=
  fixed "const" <|> group .square (fixed "const")

/-- The types of a call in a bound, where a double colon before them is left out. -/
def boundCallAfter : Shape → Piece
  | .applied => empty
  | _ => opt (opt (ahead colonsBeforeCall ++ silent (fixed "::")) ++ signature)

/-- A trait, with the mark of one that is not required. -/
def traitBound : Piece :=
  ((binder ++ opt constantMark ++ opt (fixed "?")) <|>
      (opt constantMark ++ opt (fixed "?" ++ opt binder))) ++
    andThenBy (path false) boundCallAfter

/-- The names that a type may use. -/
def capture : Piece :=
  let item := shaped (some .lifetime) lifetime <|> fixed "Self" <|> name
  fixed "use <" ++ arguments item ++ fixed ">"

/-- The form of bounds.  One for constants is spelled as it stands. -/
def boundForm : Piece :=
  let trait := group .round traitBound <|> traitBound
  let constantTrait := opt binder ++ constantMark
  lifetime <|> capture <|>
    (ahead (group .round constantTrait <|> constantTrait) ++ verbatim trait) <|>
    trait

/-- Further bounds, a plus sign before each and possibly after the last. -/
def furtherBounds (constants : Bool) : Piece :=
  let beginning := terminal .anyWord <|> anyOf ["::", "?"] <|> lifetime <|> brackets .round <|>
    (if constants then brackets .square else notAhead empty)
  many (ahead (fixed "+" ++ beginning) ++ fixed "+" ++ bound) ++ opt (fixed "+")

/-- Bounds with plus signs between them, or just one. -/
def bounds (sums : Bool) : Piece :=
  bound ++ (if sums then furtherBounds true else empty)

/-! ## §6 Functions -/

/-- The name before the type of something. -/
def label : Piece :=
  attempt ((fixed "_" <|> fixed "self" <|> name) ++ notAhead (fixed "::") ++ fixed ":")

/-- The value that a method is called on, when it may change. -/
def changingSelf : Piece :=
  ahead (fixed "mut self") ++ verbatim (fixed "mut" ++ opt label ++ type true)

/-- Any number of further values. -/
def variadic : Piece :=
  opt label ++ fixed "..."

/-- What a function takes. -/
def parameters : Piece :=
  let one := attributes ++ (changingSelf <|> (opt label ++ type true))
  many (notAhead (pastAttributes variadic) ++ one ++ (fixed "," <|> terminal .ending)) ++
    opt (attributes ++ variadic ++ opt (fixed ","))

/-- The words before a function. -/
def functionWords : Piece :=
  opt (fixed "unsafe") ++ opt (fixed "extern" ++ opt (terminal .literal)) ++ fixed "fn"

/-- The type of a function. -/
def function : Piece :=
  functionWords ++ group .round parameters ++ returnType false

/-! ## §7 Types -/

/-- A plus sign and a bound. -/
def plusBound : Piece :=
  plain (fixed "+" ++ bound)

/-- The inside of round brackets in a type. -/
def roundBody : Piece :=
  shaped (some .several) (terminal .ending) <|>
    (ahead lifetime ++ plain (bounds true)) <|>
    (ahead (fixed "?") ++ shaped (some .weak) traitBound) <|>
    (type true ++ opt (shaped (some .several) (fixed "," ++ listOf (type true))))

/-- Whether plus signs may follow round brackets around this: a bound that is not required is one,
and so is a lone path where sums are. -/
def allowsSum (sums : Bool) : Shape → Bool
  | .weak => true
  | .path => sums
  | .bound => sums
  | _ => false

/-- A type that begins with round brackets.  Two pairs around a bound that is not required are one
in a sum. -/
def roundType (sums : Bool) : Piece :=
  let weak := group .round (fixed "?") ++ notAhead (anyOf ["+", ","])
  (if sums then
      ahead (group .round weak ++ fixed "+") ++
        plain (inside .round (group .round traitBound) ++ many plusBound)
    else notAhead empty) <|>
    andThenBy (group .round roundBody) fun
      | .around inner => if allowsSum sums inner then many plusBound else empty
      | _ => empty

/-- Bounds after a path, if the type may be a sum. -/
def sumAfter (sums : Bool) : Piece :=
  if sums then opt (ahead (fixed "+") ++ plain (furtherBounds false)) else empty

/-- A type that begins with a path. -/
def namedType (sums : Bool) : Piece :=
  plain (andThenBy (qualifiedPath false) callAfter) <|>
    plain codeCall <|>
    (shaped (some .path) typePath ++ sumAfter sums)

/-- A type that begins with the parameters that it introduces, which a call of code does without. -/
def boundType (sums : Bool) : Piece :=
  (ahead (binder ++ codeName) ++ plain (silent binder ++ codeCall)) <|>
    (binder ++ (plain function <|> (shaped (some .bound) typePath ++ sumAfter sums)))

/-- A type that begins with a word or a mark of its own. -/
def markedType (sums : Bool) : Piece :=
  function <|>
    (ahead (fixed "dyn *") ++ verbatim (fixed "dyn *" ++ bounds sums)) <|>
    (fixed "dyn" ++ bounds sums) <|>
    (fixed "impl" ++ bounds sums) <|>
    group .square (type true ++ opt (fixed ";" ++ expression true)) <|>
    (fixed "*" ++ anyOf ["const", "mut"] ++ type false) <|>
    (fixed "&" ++ opt lifetime ++ opt (fixed "mut") ++ type false) <|>
    fixed "!" <|>
    fixed "_" <|>
    (ahead lifetime ++ bounds true)

/-- **The form of types.** -/
def typeForm (sums : Bool) : Piece :=
  roundType sums <|> boundType sums <|> plain (markedType sums) <|> namedType sums

end Piece

end TrackingPlan.Bindings
