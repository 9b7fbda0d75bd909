import TrackingPlan.Bindings.StatementGrammar
import TrackingPlan.Bindings.Print

/-!
# The name of the client, and the path of the library

Both are given as text.  The name is one identifier that is no keyword.  The path is read by a
grammar, since its segments may have types and constants as arguments.

§1 the grammar · §2 texts.
-/

namespace TrackingPlan.Bindings

/-! ## §1 The grammar -/

/-- **The grammar of paths.** -/
def pathGrammar : Grammar Symbol
  | .path inExpression => Piece.pathForm inExpression
  | .callTypes => Piece.callTypesForm
  | .typeParameter => Piece.typeParameterForm
  | .bound => Piece.boundForm
  | .type sums => Piece.typeForm sums
  | .pattern => Piece.patternForm
  | .expression structures => Piece.expressionForm structures
  | .operand structures => Piece.operandForm structures
  | .conditional => Piece.conditionalForm
  | .compound => Piece.compoundForm
  | .block => Piece.blockForm
  | .importTree => Piece.importTreeForm
  | .item => Piece.itemForm

/-- How many productions may stand in one another for each character of a text. -/
def productionsPerCharacter : Nat :=
  200

/-! ## §2 Texts -/

/-- The lexemes of a text. -/
def lexemes (text : String) : Except SyntaxFault (List Lexeme) :=
  match Lexeme.ofText? text with
  | some ls => .ok ls
  | none => .error .unreadable

/-- **The identifier that a text is.** -/
def Identifier.parse (text : String) : Except SyntaxFault Identifier := do
  let ls ← lexemes text
  match ls with
  | .ident i :: rest =>
    if reservedWords.contains i.text then throw (.keyword i.text)
    else if rest.isEmpty then return i
    else throw .trailing
  | _ => throw (Lexeme.notName ls)

/-- **The path that a text is.**  Nothing may be left over, between brackets neither. -/
def RuntimePath.parse (text : String) : Except SyntaxFault RuntimePath := do
  let ls ← lexemes text
  match (Piece.path false).read pathGrammar (productionsPerCharacter * (text.length + 1)) ls with
  | .ok r => if r.rest.isEmpty && !r.stray then return r.tokens else throw .trailing
  | .error stop => throw stop.fault

end TrackingPlan.Bindings
