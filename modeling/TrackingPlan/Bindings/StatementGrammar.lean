import TrackingPlan.Bindings.ItemGrammar

/-!
# Forms of statements

A block is a sequence of statements; the value of the last one may be that of the block.

§1 statements · §2 blocks.
-/

namespace TrackingPlan.Bindings.Piece

open Production

/-! ## §1 Statements -/

/-- A statement that names a value. -/
def localValue : Piece :=
  ahead (pastAttributes (fixed "let")) ++ attributes ++ fixed "let" ++ pattern ++
    opt (fixed ":" ++ type true) ++
    opt (fixed "=" ++ expression true ++ opt (fixed "else" ++ block)) ++ fixed ";"

/-- A call of code with braces, unless it is the beginning of an expression. -/
def codeStatement : Piece :=
  let call := plainPath ++ codeMark ++ brackets .brace
  ahead (pastAttributes (call ++ notAhead beginsTrailer)) ++ attributes ++ call ++ opt (fixed ";")

/-- An expression as a statement.  One that is no code in braces needs a semicolon, unless it is the
last.  The attributes of a range go around it. -/
def expressionStatement : Piece :=
  andThenBy (attributed attributes (andThenBy opening (operationsAfter true))) fun
    | .complete => opt (fixed ";")
    | _ => fixed ";" <|> terminal .ending

/-- A statement. -/
def statement : Piece :=
  fixed ";" <|>
    codeStatement <|>
    localValue <|>
    (ahead (pastAttributes beginsItem) ++ symbol .item) <|>
    expressionStatement

/-! ## §2 Blocks -/

/-- **The form of what stands in braces.** -/
def blockForm : Piece :=
  innerAttributes ++ many statement

end TrackingPlan.Bindings.Piece
