import TrackingPlan.Bindings.TypeGrammar

/-!
# Forms of patterns

A pattern says what a value may look like and names its parts.

§1 alternatives and ends of ranges · §2 patterns of paths · §3 patterns.
-/

namespace TrackingPlan.Bindings.Piece

open Production

/-! ## §1 Alternatives and ends of ranges -/

/-- Patterns of which one has to fit. -/
def alternatives : Piece :=
  opt (fixed "|") ++ pattern ++
    many (notAhead (anyOf ["||", "|="]) ++ fixed "|" ++ pattern)

/-- A path in an expression, possibly below a type. -/
def valuePath : Piece :=
  qualifiedPath true <|> path true

/-- A block with a word before it. -/
def markedBlock (word : String) : Piece :=
  attempt (fixed word ++ ahead (brackets .brace)) ++ block

/-- An end of a range. -/
def rangeEnd : Piece :=
  signedLiteral <|> markedBlock "const" <|> valuePath

/-- What follows a range that is open at its end. -/
def pastRange : Piece :=
  terminal .ending <|> anyOf ["|", "=", ",", ";", "if"] <|> (notAhead (fixed "::") ++ fixed ":")

/-- The end of a range, or nothing. -/
def optionalEnd : Piece :=
  ahead pastRange <|> shaped (some .range) rangeEnd

/-- The points of a range and its end, after its beginning.  Three points mean that the end belongs
to the range. -/
def rangeAfterStart : Piece :=
  shaped (some .range)
    ((fixed "..=" ++ rangeEnd) <|>
      (silent (fixed "...") ++ insert (code "..=") ++ rangeEnd) <|>
      (fixed ".." ++ optionalEnd))

/-- A range without a beginning.  Two points alone stand for whatever is left. -/
def rangeWithoutStart : Piece :=
  notAhead (fixed "...") ++
    (shaped (some .range) (fixed "..=" ++ rangeEnd) <|> (fixed ".." ++ optionalEnd))

/-! ## §2 Patterns of paths -/

/-- A field by its name or its position, with its pattern; the name alone is a pattern too. -/
def fieldPattern : Piece :=
  let withPattern := fixed ":" ++ alternatives
  let marked := opt (fixed "ref") ++ opt (fixed "mut") ++ name
  attributes ++
    ((ahead (fixed "box") ++ verbatim (fixed "box" ++ marked)) <|>
      (ahead (anyOf ["ref", "mut"]) ++ marked) <|>
      (terminal .position ++ withPattern) <|>
      (name ++ opt withPattern))

/-- The patterns of fields, and the mark that there are more of them. -/
def fieldPatterns : Piece :=
  many (notAhead (pastAttributes (fixed "..")) ++ fieldPattern ++
      (fixed "," <|> terminal .ending)) ++
    opt (attributes ++ fixed "..")

/-- What makes a name the beginning of a path. -/
def beginsPath : Piece :=
  (name ++ (anyOf ["::", "!", ".."] <|> brackets .brace <|> brackets .round)) <|>
    fixed "self ::" <|> anyOf ["::", "<", "Self", "super", "crate"]

/-- A pattern that begins with a path. -/
def pathPattern : Piece :=
  ahead beginsPath ++
    (plain codeCall <|>
      (plain valuePath ++
        (group .brace fieldPatterns <|> group .round (listOf alternatives) <|>
          opt rangeAfterStart)))

/-! ## §3 Patterns -/

/-- A name for a value, which may have a pattern too. -/
def namePattern : Piece :=
  opt (fixed "ref") ++ opt (fixed "mut") ++ (fixed "self" <|> name) ++ opt (fixed "@" ++ pattern)

/-- **The form of patterns.**  Its shape tells ranges, and what is spelled as it stands. -/
def patternForm : Piece :=
  pathPattern <|>
    plain (fixed "_") <|>
    verbatim (fixed "box" ++ pattern) <|>
    (plain (signedLiteral <|> markedBlock "const") ++ opt rangeAfterStart) <|>
    plain (fixed "&" ++ opt (fixed "mut") ++ pattern) <|>
    group .round (listOf alternatives) <|>
    group .square (listOf alternatives) <|>
    rangeWithoutStart <|>
    plain namePattern

end TrackingPlan.Bindings.Piece
