import TrackingPlan.Naming.Registry

/-!
# What can be wrong with a plan, a model or a configuration

Each error says its cause; the wording is in one place (`SchemaError.message`), and so is the code
under which the error is documented (`SchemaError.code`).

§1 causes · §2 the errors · §3 their wording · §4 codes and advice.
-/

namespace TrackingPlan

open Naming (NameError)

/-! ## §1 Causes -/

/-- Why a type definition or a rule is refused. -/
inductive TypeFault where
  | emptyEnumeration
  | enumerationValue (value : String)
  | unnamedTrack
  | payloadNotObject (found : String)
  | notValueKind (found : String)
deriving DecidableEq

/-- Why a variant is refused.  Cases are named as the plan or the model names them. -/
inductive VariantFault where
  | discriminatorNotInBase (key : String)
  | noCases
  | noKinds
  | noMatchValues (case : String)
  | nonIntegerTag (case tag : String)
  | notOnObject
  | severalBlocks
  | unsupportedKind (kind : String)
  | matchNotLiteral (value case : String)
  | redeclaredDiscriminator (case key : String)
  | wrapsNotOne (case : String)
  | misfit (case : String)
  | misfitIn (case : String) (primitive : Bool)
  | noDiscriminator (case : String)
  | defaultNotTagged
deriving DecidableEq

/-- What is declared twice. -/
inductive DuplicateKind where
  | field
  | enumValue
  | enumCase
  | variantCase
  | eventRule
  | nestedObject
deriving DecidableEq

/-- Why a text is no identifier or path. -/
inductive SyntaxFault where
  | unreadable
  | endOfInput
  | keyword (word : String)
  | notIdentifier
  | trailing
deriving DecidableEq

/-- Why a configuration or an option is refused. -/
inductive ConfigFault where
  | emptyFileName
  | notSourceFile (name : String)
  | emptyClientName
  | runtimePath (text : String) (fault : SyntaxFault)
  | clientName (text : String) (fault : SyntaxFault)
deriving DecidableEq

/-! ## §2 The errors -/

/-- **An error of a plan, a model or a configuration.** -/
inductive SchemaError where
  | unreadableFile (path : String)
  | malformedDocument
  | invalidType (name : String) (fault : TypeFault)
  | invalidName (error : NameError)
  | invalidVariant (variant : String) (fault : VariantFault)
  | duplicateTag (variant tag : String)
  | discriminatorMismatch (variant discriminator expected literal : String)
  | noMatchingCase (variant value : String)
  | duplicate (kind : DuplicateKind) (name : String)
  | unknownType (owner typeName : String)
  | cyclicType (name : String)
  | config (fault : ConfigFault)
  | malformedToml
  | validationFailed (errors : List SchemaError)

/-! ## §3 Their wording -/

/-- The text between back quotes. -/
def ticked (s : String) : String :=
  "`" ++ s ++ "`"

/-- The cause in words. -/
def TypeFault.message : TypeFault → String
  | .emptyEnumeration => "enum declares no values"
  | .enumerationValue value => "enum value " ++ ticked value ++ " is not a literal"
  | .unnamedTrack => "track events must be named"
  | .payloadNotObject found => "payload must be an object, found " ++ found
  | .notValueKind found => "type alternation may only list value kinds, found " ++ ticked found

/-- The cause in words. -/
def VariantFault.message : VariantFault → String
  | .discriminatorNotInBase key =>
    "discriminator " ++ ticked key ++ " must be a property of the parent schema"
  | .noCases => "no cases declared"
  | .noKinds => "no alternative kinds declared"
  | .noMatchValues case => "case " ++ ticked case ++ " has no match values"
  | .nonIntegerTag case tag => "case " ++ ticked case ++ " matches non-integer number " ++ tag
  | .notOnObject => "variants are only supported on object types"
  | .severalBlocks => "only one variant block per type is supported"
  | .unsupportedKind kind => "unsupported variant type " ++ ticked kind
  | .matchNotLiteral value case =>
    "match value " ++ ticked value ++ " of case " ++ ticked case ++ " is not a literal"
  | .redeclaredDiscriminator case key =>
    "case " ++ ticked case ++ " redeclares discriminator " ++ ticked key
  | .wrapsNotOne case => "primitive case " ++ ticked case ++ " must wrap exactly one value"
  | .misfit case => "case " ++ ticked case ++ " does not fit its variant"
  | .misfitIn case primitive =>
    "case " ++ ticked case ++ " does not fit a " ++
      (if primitive then "primitive" else "discriminated") ++ " variant"
  | .noDiscriminator case => "case " ++ ticked case ++ " needs a discriminator"
  | .defaultNotTagged => "default case must carry the default tag"

/-- What is declared twice, in words. -/
def DuplicateKind.text : DuplicateKind → String
  | .field => "field"
  | .enumValue => "enum value"
  | .enumCase => "enum case"
  | .variantCase => "variant case"
  | .eventRule => "event rule"
  | .nestedObject => "nested object"

/-- The cause in words. -/
def SyntaxFault.message : SyntaxFault → String
  | .unreadable => "cannot parse string into token stream"
  | .endOfInput => "unexpected end of input, expected identifier"
  | .keyword word => "expected identifier, found keyword " ++ ticked word
  | .notIdentifier => "expected identifier"
  | .trailing => "unexpected token"

/-- The cause in words. -/
def ConfigFault.message : ConfigFault → String
  | .emptyFileName => "generator.file_name cannot be empty"
  | .notSourceFile name => "generator.file_name must be a Rust source file, got " ++ ticked name
  | .emptyClientName => "generator.client_name cannot be empty"
  | .runtimePath text fault => "invalid runtime path " ++ ticked text ++ ": " ++ fault.message
  | .clientName text fault => "invalid client name " ++ ticked text ++ ": " ++ fault.message

namespace SchemaError

/-- **The error in words.** -/
def message : SchemaError → String
  | unreadableFile path => "failed to read file: " ++ path
  | malformedDocument => "failed to parse plan document"
  | invalidType name fault => "invalid type " ++ ticked name ++ ": " ++ fault.message
  | invalidName e => "invalid name " ++ ticked e.name ++ ": " ++ e.fault.message
  | invalidVariant variant fault => "invalid variant " ++ ticked variant ++ ": " ++ fault.message
  | duplicateTag variant tag =>
    "variant " ++ ticked variant ++ " declares tag " ++ ticked tag ++ " more than once"
  | discriminatorMismatch variant discriminator expected literal =>
    "variant " ++ ticked variant ++ ": literal " ++ ticked literal ++
      " cannot match discriminator " ++ ticked discriminator ++ " of type " ++ expected
  | noMatchingCase variant value =>
    "variant " ++ ticked variant ++ " has no case for " ++ ticked value ++ " and no default case"
  | duplicate kind name => "duplicate " ++ kind.text ++ " " ++ ticked name
  | unknownType owner typeName =>
    "unknown type " ++ ticked typeName ++ " referenced from " ++ ticked owner
  | cyclicType name => "custom type " ++ ticked name ++ " is defined in terms of itself"
  | config fault => "configuration error: " ++ fault.message
  | malformedToml => "failed to parse TOML"
  | validationFailed errors =>
    "schema validation failed with " ++ toString errors.length ++ " error(s)"

/-- The message, and below it the messages of the errors that a failed validation gathers. -/
def report : SchemaError → String
  | validationFailed errors =>
    (validationFailed errors).message ++ String.join (errors.map fun e => "\n  - " ++ e.message)
  | e => e.message

/-! ## §4 Codes and advice -/

/-- The code of the error. -/
def code : SchemaError → String
  | unreadableFile _ => "typer::schema::io_error"
  | malformedDocument => "typer::schema::json_error"
  | invalidType .. => "typer::schema::invalid_type"
  | invalidName _ => "typer::schema::invalid_name"
  | invalidVariant .. => "typer::schema::invalid_variant"
  | duplicateTag .. => "typer::schema::duplicate_tag"
  | discriminatorMismatch .. => "typer::schema::discriminator_mismatch"
  | noMatchingCase .. => "typer::schema::no_matching_case"
  | duplicate .. => "typer::schema::duplicate"
  | unknownType .. => "typer::schema::unknown_type"
  | cyclicType _ => "typer::schema::cyclic_type"
  | config _ => "typer::schema::config_error"
  | malformedToml => "typer::schema::toml_error"
  | validationFailed _ => "typer::schema::validation_failed"

/-- What to do about the error, for the errors that say. -/
def help? : SchemaError → Option String
  | invalidVariant .. =>
    some "a variant needs a discriminator owned by the parent schema and at least one case"
  | duplicateTag .. => some "every case of a variant must match a distinct literal"
  | _ => none

/-- The errors that the error gathers. -/
def related : SchemaError → List SchemaError
  | validationFailed errors => errors
  | _ => []

end SchemaError

end TrackingPlan
