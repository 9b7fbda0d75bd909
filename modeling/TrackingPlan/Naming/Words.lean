import TrackingPlan.Text.Blank
import TrackingPlan.Text.CaseMap
import TrackingPlan.Text.Lowercase
import TrackingPlan.Text.Numeric
import TrackingPlan.Text.Uppercase

/-!
# Words of a plan name, and the names made of them

A plan names its types, keys and events in any text; an emitted name is made of the *words* of that
text.  For a type the words are of any script: what is not alphanumeric separates them, and so do
camel humps (`userId`), a capital after a digit (`123Id`) and the end of an acronym (`XMLHttp` is
`XML`, `Http`).  For a member only ASCII letters and digits count, and digits are words of their
own.

§1 words · §2 capitalised words run together · §3 keywords · §4 type names · §5 member names.
-/

namespace TrackingPlan.Naming

open TrackingPlan.Text

/-! ## §1 Words -/

/-- **A rule for words**: which characters they are made of, and whether a word ends between two of
them, given also the character that follows them. -/
structure WordRule where
  isPart : Char → Bool
  isBoundary : Char → Char → Option Char → Bool

namespace WordRule

/-- The word gathered so far, its characters in reverse; no word if there are none. -/
def closeWord (current : List Char) : List (List Char) :=
  if current.isEmpty then [] else [current.reverse]

/-- The words from here on; `current` holds the characters of the word under way in reverse. -/
def wordsFrom (rule : WordRule) : List Char → List Char → List (List Char)
  | current, [] => closeWord current
  | current, c :: rest =>
    if rule.isPart c then
      match current with
      | [] => rule.wordsFrom [c] rest
      | prev :: _ =>
        if rule.isBoundary prev c rest.head? then current.reverse :: rule.wordsFrom [c] rest
        else rule.wordsFrom (c :: current) rest
    else
      closeWord current ++ rule.wordsFrom [] rest

/-- The words of a text. -/
def words (rule : WordRule) (cs : List Char) : List (List Char) :=
  rule.wordsFrom [] cs

end WordRule

/-- The rule for the words of a type name. -/
def typeWords : WordRule where
  isPart := isAlphanumeric
  isBoundary prev c next :=
    (isLowercase prev && isUppercase c) || (isNumeric prev && isUppercase c) ||
      (isUppercase prev && isUppercase c && next.any isLowercase)

/-- **The words of a name.** -/
def splitWords (name : String) : List String :=
  (typeWords.words name.toList).map String.ofList

/-! ## §2 Capitalised words run together -/

/-- The word with its first character in upper case and the others in lower case. -/
def capitalize : List Char → List Char
  | [] => []
  | c :: rest => upperCase c ++ rest.flatMap lowerCase

/-- The words of a name, each capitalised, run together. -/
def pascalCase (name : String) : String :=
  String.ofList ((typeWords.words name.toList).flatMap capitalize)

/-! ## §3 Keywords -/

/-- The keywords of the emitted language, in use and reserved, in lower case. -/
def keywords : List String :=
  ["abstract", "as", "async", "await", "become", "box", "break", "const", "continue", "crate",
    "do", "dyn", "else", "enum", "extern", "false", "final", "fn", "for", "gen", "if", "impl",
    "in", "let", "loop", "macro", "match", "mod", "move", "mut", "override", "priv", "pub", "ref",
    "return", "self", "static", "struct", "super", "trait", "true", "try", "type", "typeof",
    "unsafe", "unsized", "use", "virtual", "where", "while", "yield"]

/-- Whether the word is a keyword when written in lower case. -/
def isKeyword (word : String) : Bool :=
  keywords.contains (toLowerCase word)

/-! ## §4 Type names -/

/-- The text with an underscore before it. -/
def underscored (s : String) : String :=
  "_" ++ s

/-- **The type or case name for a plan name.**  Its words run together; an underscore goes before a
leading digit, and another one if the plan name is itself a keyword; `label` goes first.  A blank
plan name gives the empty text. -/
def typeName (label name : String) : String :=
  let trimmed := trim name
  if trimmed.isEmpty then
    ""
  else
    let words := pascalCase trimmed
    let words := if words.toList.head?.any isNumeric then underscored words else words
    let words := if isKeyword trimmed then underscored words else words
    label ++ words

/-! ## §5 Member names -/

/-- The rule for the words of a member name: they are ASCII, and digits are words of their own. -/
def memberWords : WordRule where
  isPart := Char.isAlphanum
  isBoundary prev c next :=
    (prev.isLower && c.isUpper) || (prev.isUpper && c.isDigit) || (prev.isDigit && c.isAlpha) ||
      (prev.isLower && c.isDigit) || (prev.isUpper && c.isUpper && next.any Char.isLower)

/-- The words of a name in lower case, joined by underscores. -/
def snakeCase (name : String) : String :=
  "_".intercalate ((memberWords.words name.toList).map fun w => String.ofList (w.map Char.toLower))

/-- The keywords that stay keywords however they are written. -/
def plainKeywords : List String :=
  ["self", "Self", "super", "crate", "_"]

/-- **The name of a field or a method for a plan name.**  It is never empty, never begins with a
digit, and is none of the keywords that cannot be names. -/
def memberName (name : String) : String :=
  let snake := snakeCase name
  let snake := if snake.isEmpty then "field" else snake
  let snake := if snake.toList.head?.any Char.isDigit then underscored snake else snake
  if plainKeywords.contains snake then snake ++ "_" else snake

end TrackingPlan.Naming
