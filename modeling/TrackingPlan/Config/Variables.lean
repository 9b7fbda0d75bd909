import TrackingPlan.Entries

/-!
# Variables in the text of a configuration

A variable is written `${NAME}`; its name is any text without a closing brace, and not empty.  The
text is gone through once: what a variable stands for is not gone through again, and a variable that
is not set stays as it is.
-/

namespace TrackingPlan.Config

/-- The variables that are set. -/
abbrev Variables := Entries String

/-- What begins a variable. -/
def variableMark : List Char :=
  ['$', '\x7b']

/-- What a variable stands for. -/
def substitute (valueOf : String → Option String) (name : List Char) : List Char :=
  match valueOf (String.ofList name) with
  | some value => value.toList
  | none => variableMark ++ name ++ ['\x7d']

/-- The text with its variables replaced, from here on.  In a variable, the first argument holds
the characters of its name so far in reverse. -/
def expandFrom (valueOf : String → Option String) : Option (List Char) → List Char → List Char
  | none, '$' :: '\x7b' :: rest => expandFrom valueOf (some []) rest
  | none, c :: rest => c :: expandFrom valueOf none rest
  | none, [] => []
  | some [], '\x7d' :: rest => variableMark ++ '\x7d' :: expandFrom valueOf none rest
  | some name, '\x7d' :: rest => substitute valueOf name.reverse ++ expandFrom valueOf none rest
  | some name, c :: rest => expandFrom valueOf (some (c :: name)) rest
  | some name, [] => variableMark ++ name.reverse

/-- **The text with its variables replaced.** -/
def expand (valueOf : String → Option String) (text : String) : String :=
  String.ofList (expandFrom valueOf none text.toList)

end TrackingPlan.Config
