import TrackingPlan.Bindings.ExpressionGrammar

/-!
# Forms of items

A block may declare functions, constants, types and the like.  A declaration that the language only
sets aside for later is spelled as it stands.

§1 visibility · §2 parameters and conditions · §3 functions · §4 constants · §5 types ·
§6 traits and what implements them · §7 modules and imports · §8 items.
-/

namespace TrackingPlan.Bindings.Piece

open Production

/-! ## §1 Visibility -/

/-- Who may use something, if that is said. -/
def visibility : Piece :=
  let place := anyOf ["crate", "self", "super"]
  opt (fixed "pub" ++
    opt (ahead (group .round ((place ++ terminal .ending) <|> fixed "in")) ++
      group .round (place <|> (fixed "in" ++ plainPath))))

/-! ## §2 Parameters and conditions -/

/-- The parameters of an item.  Angle brackets around nothing are left out. -/
def typeParameters : Piece :=
  attempt (silent (fixed "< >")) <|> opt (fixed "<" ++ arguments typeParameter ++ fixed ">")

/-- The end of conditions. -/
def conditionsEnd : Piece :=
  terminal .ending <|> brackets .brace <|> anyOf [",", ";", "="] <|>
    (notAhead (fixed "::") ++ fixed ":")

/-- Bounds up to the end of a condition. -/
def conditionBounds (item : Piece) : Piece :=
  fixed ":" ++ (ahead conditionsEnd <|>
    (item ++ many (fixed "+" ++ (ahead conditionsEnd <|> item))))

/-- A condition: the bounds of a lifetime or of a type. -/
def condition : Piece :=
  (ahead (lifetime ++ fixed ":") ++ lifetime ++ conditionBounds lifetime) <|>
    (opt binder ++ type true ++ conditionBounds bound)

/-- The conditions of an item.  Without any their word is left out. -/
def conditions : Piece :=
  attempt (silent (fixed "where") ++ ahead conditionsEnd) <|>
    opt (fixed "where" ++ condition ++ many (fixed "," ++ (ahead conditionsEnd <|> condition)))

/-- Bounds after a colon in the head of an item. -/
def headBounds : Piece :=
  boundsAfterColon bound (anyOf ["where", "=", ";"] <|> brackets .brace)

/-! ## §3 Functions -/

/-- The value that a method is called on. -/
def receiver : Piece :=
  attempt (fixed "&" ++ opt lifetime ++ opt (fixed "mut") ++ fixed "self") <|>
    (attempt (opt (fixed "mut") ++ fixed "self" ++ notAhead (fixed "::")) ++
      opt (fixed ":" ++ type true))

/-- What a function takes.  A type with arguments may stand for a value without a name. -/
def functionParameters : Piece :=
  let one := receiver <|>
    (ahead (name ++ fixed "<") ++ insert (code "_ :") ++ type true) <|>
    (pattern ++ fixed ":" ++ (fixed "..." <|> type true))
  many (notAhead (pastAttributes variadic) ++ attributes ++ one ++
      (fixed "," <|> terminal .ending)) ++
    opt (attributes ++ variadic ++ opt (fixed ","))

/-- The words before the name of a function. -/
def functionStart : Piece :=
  opt (fixed "const") ++ opt (fixed "async") ++ functionWords

/-- A function up to its code. -/
def functionHead : Piece :=
  ahead functionStart ++ functionStart ++ name ++ typeParameters ++
    group .round functionParameters ++ returnType true ++ conditions

/-- The end of a function without code: where it needs some, it is spelled as it stands. -/
def functionEnd (needsCode : Bool) : Piece :=
  (if needsCode then shaped (some .written) (fixed ";") else fixed ";") <|> block

/-! ## §4 Constants -/

/-- A value that stands at one place. -/
def staticItem : Piece :=
  let value := fixed "=" ++ expression true
  fixed "static" ++ opt (fixed "mut") ++ name ++
    (shaped (some .written) (value ++ fixed ";") <|>
      (fixed ":" ++ type true ++ (shaped (some .written) (fixed ";") <|> (value ++ fixed ";"))))

/-- The type and the value of a constant. -/
def constantBody (needsValue : Bool) : Piece :=
  let conditional := ahead (fixed "where") ++ shaped (some .written) (conditions ++ fixed ";")
  let noValue :=
    if needsValue then shaped (some .written) (conditions ++ fixed ";")
    else conditional <|> fixed ";"
  fixed ":" ++ type true ++
    ((fixed "=" ++ expression true ++ (conditional <|> fixed ";")) <|> noValue)

/-- A constant. -/
def constantItem (needsValue : Bool) : Piece :=
  fixed "const" ++ (fixed "_" <|> name) ++
    ((ahead (fixed "<") ++ shaped (some .written) (typeParameters ++ constantBody needsValue)) <|>
      constantBody needsValue)

/-! ## §5 Types -/

/-- The name of a type, which may have bounds. -/
def typeItem (needsValue : Bool) : Piece :=
  let tail := conditions ++ opt (fixed "=" ++ type true) ++ conditions ++ fixed ";"
  let bounded := if needsValue then shaped (some .written) (headBounds ++ tail)
    else headBounds ++ tail
  let noValue := if needsValue then shaped (some .written) (fixed ";") else fixed ";"
  fixed "type" ++ name ++ typeParameters ++
    ((ahead (fixed ":") ++ bounded) <|>
      (conditions ++ ((fixed "=" ++ type true ++ conditions ++ fixed ";") <|> noValue)))

/-- Fields with names. -/
def namedFields : Piece :=
  group .brace
    (listOf (attributes ++ visibility ++ (fixed "_" <|> name) ++ fixed ":" ++ type true))

/-- Fields without names. -/
def tupleFields : Piece :=
  group .round (listOf (attributes ++ visibility ++ type true))

/-- A structure. -/
def structureItem : Piece :=
  fixed "struct" ++ name ++ typeParameters ++
    ((tupleFields ++ conditions ++ fixed ";") <|>
      (conditions ++ (namedFields <|> fixed ";")))

/-- One case of an enumeration; its visibility is left out. -/
def enumerationCase : Piece :=
  attributes ++ silent visibility ++ name ++ opt (namedFields <|> tupleFields) ++
    opt (fixed "=" ++ expression true)

/-- An enumeration. -/
def enumerationItem : Piece :=
  fixed "enum" ++ name ++ typeParameters ++ conditions ++ group .brace (listOf enumerationCase)

/-- A structure whose fields share their place. -/
def unionItem : Piece :=
  ahead (fixed "union" ++ name) ++ fixed "union" ++ name ++ typeParameters ++ conditions ++
    namedFields

/-! ## §6 Traits and what implements them -/

/-- A call of code with brackets, and a semicolon where they are no braces. -/
def codeItem : Piece :=
  plainPath ++ fixed "!" ++ opt (fixed "try" <|> name) ++
    (brackets .brace <|> ((brackets .round <|> brackets .square) ++ fixed ";"))

/-- A member of a trait, or of what implements one, where everything needs its value.  In a trait
one that says who may use it is spelled as it stands. -/
def memberItem (implements : Bool) : Piece :=
  let replaceable := attempt (fixed "default" ++ notAhead (fixed "!"))
  let member := (functionHead ++ functionEnd implements) <|> constantItem implements <|>
    typeItem implements <|> codeItem
  let whole := visibility ++ opt replaceable ++ member
  asWritten (attributes ++
    (if implements then whole
      else (ahead (fixed "pub" <|> replaceable) ++ shaped (some .written) whole) <|> member))

/-- A trait, or another name for bounds. -/
def traitItem : Piece :=
  opt (fixed "auto") ++ fixed "trait" ++ name ++ typeParameters ++
    ((fixed "=" ++ bounds true ++ conditions ++ fixed ";") <|>
      (headBounds ++ conditions ++
        group .brace (innerAttributes ++ many (memberItem false))))

/-- Whether angle brackets hold parameters and no type. -/
def beginsParameters : Piece :=
  fixed "<" ++ (anyOf [">", "#", "const"] <|>
    ((lifetime <|> name) ++
      (anyOf [">", ",", "="] <|> (notAhead (fixed "::") ++ fixed ":"))))

/-- What implements a trait, or the methods of a type. -/
def implementationItem : Piece :=
  let rest := opt (notAhead (fixed "!" ++ brackets .brace) ++ fixed "!") ++ type true ++
    opt (fixed "for" ++ type true) ++ conditions ++
    group .brace (innerAttributes ++ many (memberItem true))
  opt (fixed "default") ++ opt (fixed "unsafe") ++ fixed "impl" ++
    opt (ahead beginsParameters ++ typeParameters) ++
    ((ahead (opt (fixed "?") ++ fixed "const") ++
        shaped (some .written) (opt (fixed "?") ++ fixed "const" ++ rest)) <|>
      plain rest)

/-! ## §7 Modules and imports -/

/-- The form of what is imported. -/
def importTreeForm : Piece :=
  fixed "*" <|>
    group .brace (listOf (opt (fixed "::") ++ symbol .importTree)) <|>
    ((anyOf ["self", "super", "crate", "try"] <|> name) ++
      opt ((fixed "::" ++ symbol .importTree) <|> (fixed "as" ++ (fixed "_" <|> name))))

/-- An import. -/
def importItem : Piece :=
  fixed "use" ++ opt (fixed "::") ++ symbol .importTree ++ fixed ";"

/-- A library that is imported. -/
def libraryItem : Piece :=
  ahead (fixed "extern crate") ++ fixed "extern crate" ++ (fixed "self" <|> name) ++
    opt (fixed "as" ++ (fixed "_" <|> name)) ++ fixed ";"

/-- Declarations of what another language defines. -/
def foreignItem : Piece :=
  let one := asWritten (attributes ++ visibility ++
    ((functionHead ++ (fixed ";" <|> shaped (some .written) block)) <|>
      (fixed "static" ++ opt (fixed "mut") ++ name ++ fixed ":" ++ type true ++
        (fixed ";" <|> shaped (some .written) (fixed "=" ++ expression true ++ fixed ";"))) <|>
      typeItem false <|>
      codeItem))
  opt (fixed "unsafe") ++ fixed "extern" ++ opt (terminal .literal) ++
    group .brace (innerAttributes ++ many one)

/-- A module. -/
def moduleItem : Piece :=
  fixed "mod" ++ (fixed "try" <|> name) ++
    (fixed ";" <|> group .brace (innerAttributes ++ many (symbol .item)))

/-! ## §8 Items -/

/-- A declaration of code that is called, spelled as it stands. -/
def codeDeclaration : Piece :=
  shaped (some .written) (fixed "macro" ++ name ++ opt (brackets .round) ++ brackets .brace)

/-- What tells an item from an expression. -/
def beginsItem : Piece :=
  anyOf ["pub", "extern", "use", "fn", "mod", "type", "struct", "enum", "trait", "impl",
      "macro"] <|>
    (fixed "static" ++ (fixed "mut" <|> name)) <|>
    (fixed "const" ++ notAhead (brackets .brace <|> anyOf ["static", "move", "|"] <|>
      (fixed "async" ++ notAhead (anyOf ["unsafe", "extern", "fn"])))) <|>
    (fixed "unsafe" ++ notAhead (brackets .brace)) <|>
    (fixed "async" ++ anyOf ["unsafe", "extern", "fn"]) <|>
    attempt (fixed "union" ++ name) <|>
    attempt (fixed "auto trait") <|>
    attempt (fixed "default" ++ anyOf ["unsafe", "impl"]) <|>
    (plainPath ++ fixed "!" ++ (fixed "try" <|> name))

/-- **The form of items.** -/
def itemForm : Piece :=
  asWritten (attributes ++ visibility ++
    ((functionHead ++ functionEnd true) <|>
      libraryItem <|>
      (ahead (opt (fixed "unsafe") ++ fixed "extern") ++ foreignItem) <|>
      importItem <|>
      staticItem <|>
      constantItem true <|>
      (ahead (opt (fixed "unsafe") ++ fixed "mod") ++ opt (fixed "unsafe") ++ moduleItem) <|>
      (ahead (opt (fixed "unsafe") ++ opt (fixed "auto") ++ fixed "trait") ++
        opt (fixed "unsafe") ++ traitItem) <|>
      typeItem true <|>
      structureItem <|>
      enumerationItem <|>
      unionItem <|>
      (ahead (opt (fixed "default") ++ opt (fixed "unsafe") ++ fixed "impl") ++
        implementationItem) <|>
      codeDeclaration <|>
      codeItem))

end TrackingPlan.Bindings.Piece
