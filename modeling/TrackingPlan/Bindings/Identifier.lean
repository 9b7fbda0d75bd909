import TrackingPlan.Naming.Words
import TrackingPlan.Text.Identifier

/-!
# Identifiers of the emitted code

An identifier begins with a letter or an underscore and goes on with letters, digits and marks, of
any script.  A keyword may serve as an identifier when it is written *raw*, except for the few that
stay keywords.
-/

namespace TrackingPlan.Bindings

open TrackingPlan.Naming

/-- **An identifier**; a raw one is written with a mark before it. -/
structure Identifier where
  name : String
  raw : Bool
deriving DecidableEq

namespace Identifier

/-- What stands before a raw identifier. -/
def rawMark : String :=
  "r#"

/-- The identifier as it is written. -/
def text (i : Identifier) : String :=
  if i.raw then rawMark ++ i.name else i.name

/-- Whether the characters are those of an identifier. -/
def isWellFormed : List Char → Bool
  | [] => false
  | c :: rest => Text.isIdentifierStart c && rest.all Text.isIdentifierContinue

/-- The raw identifier with this name. -/
def raw? (name : String) : Option Identifier :=
  if isWellFormed name.toList && !plainKeywords.contains name then some ⟨name, true⟩ else none

/-- The identifier with this name, which may carry the mark of a raw one. -/
def ofText? (text : String) : Option Identifier :=
  match text.toList with
  | 'r' :: '#' :: name => raw? (String.ofList name)
  | cs => if isWellFormed cs then some ⟨text, false⟩ else none

/-- The identifier of a member name: raw if the name is a keyword that can be. -/
def ofMember? (name : String) : Option Identifier :=
  if isKeyword name && !plainKeywords.contains name then raw? name else ofText? name

end Identifier

end TrackingPlan.Bindings
