import TrackingPlan.Bindings.Identifier
import TrackingPlan.Schema.Basic

/-!
# Items of the emitted code

What is emitted for a model, before it is spelled out: a declaration for every named type, the code
that writes values of it as JSON, and one wrapper with a method for every rule.

§1 types and fields · §2 declarations · §3 the code that writes values · §4 the wrapper · §5 items.
-/

namespace TrackingPlan.Bindings

/-! ## §1 Types and fields -/

/-- **A type of the emitted code.** -/
inductive TypeExpr where
  | scalar (kind : ScalarKind)
  | untyped (kind : UntypedKind)
  | list (item : TypeExpr)
  | named (name : Identifier)
deriving DecidableEq

/-- The lines of a doc comment: each line of the text, trimmed, with a blank before it. -/
def docLines : Option String → List String
  | none => []
  | some text => (Text.lines text).map fun line => " " ++ Text.trim line

/-- **A field of a declaration.**  One that is not required may be absent. -/
structure FieldDecl where
  docs : List String
  name : Identifier
  type : TypeExpr
  required : Bool
deriving DecidableEq

/-! ## §2 Declarations -/

/-- One case of an enumeration. -/
structure EnumCaseDecl where
  doc : String
  name : Identifier
deriving DecidableEq

/-- **One case of a variant**: it wraps one value, or has fields. -/
inductive CaseDecl where
  | wrapped (docs : List String) (name : Identifier) (type : TypeExpr)
  | fields (docs : List String) (name : Identifier) (fields : List FieldDecl)
deriving DecidableEq

/-- The name of the case. -/
def CaseDecl.name : CaseDecl → Identifier
  | .wrapped _ name _ => name
  | .fields _ name _ => name

/-- **The declaration of a type.** -/
inductive Declaration where
  | typeAlias (docs : List String) (name : Identifier) (target : TypeExpr)
  | record (docs : List String) (name : Identifier) (fields : List FieldDecl)
  | enumeration (docs : List String) (name : Identifier) (cases : List EnumCaseDecl)
  | variant (docs : List String) (name : Identifier) (cases : List CaseDecl)
deriving DecidableEq

/-- The name of the declared type. -/
def Declaration.name : Declaration → Identifier
  | .typeAlias _ name _ => name
  | .record _ name _ => name
  | .enumeration _ name _ => name
  | .variant _ name _ => name

/-! ## §3 The code that writes values -/

/-- **A statement that writes one key**: of a field, which is passed over when it is absent and may
be; of a fixed value; or of a value that is always there. -/
inductive Insert where
  | field (key : String) (name : Identifier) (required : Bool)
  | fixed (key : String) (value : Literal)
  | supplied (key : String) (name : Identifier)
deriving DecidableEq

/-- The key that the statement writes. -/
def Insert.key : Insert → String
  | .field key _ _ => key
  | .fixed key _ => key
  | .supplied key _ => key

/-- The code of one case of a variant: the fields it takes out, and what it writes. -/
structure ObjectArm where
  name : Identifier
  bindings : List Identifier
  inserts : List Insert
deriving DecidableEq

/-- **The code that writes values of a type**: keys of a record, fixed values of an enumeration, the
one value of a case, or the keys of a case. -/
inductive EncodeImpl where
  | record (name : Identifier) (inserts : List Insert)
  | enumeration (name : Identifier) (arms : List (Identifier × Literal))
  | bare (name : Identifier) (cases : List Identifier)
  | object (name : Identifier) (arms : List ObjectArm)
deriving DecidableEq

/-- The name of the type that the code is for. -/
def EncodeImpl.name : EncodeImpl → Identifier
  | .record name _ => name
  | .enumeration name _ => name
  | .bare name _ => name
  | .object name _ => name

/-! ## §4 The wrapper -/

/-- **The argument of a method**: none, any object, or a value of a type. -/
inductive Argument where
  | none
  | untyped
  | typed (type : TypeExpr)
deriving DecidableEq

/-- **The method for one rule.** -/
structure Method where
  docs : List String
  name : Identifier
  call : CallKind
  event : String
  part : CallPart
  argument : Argument
deriving DecidableEq

/-- **The wrapper around an analytics client**, and how many rules got no method. -/
structure Wrapper where
  name : Identifier
  planName : String
  platform : String
  generatorVersion : String
  metadata : PlanMetadata
  methods : List Method
  skipped : Nat
deriving DecidableEq

/-! ## §5 Items -/

/-- **An item of the emitted code.** -/
inductive Item where
  | declaration (d : Declaration)
  | encodeImpl (i : EncodeImpl)
  | wrapper (w : Wrapper)
deriving DecidableEq

end TrackingPlan.Bindings
