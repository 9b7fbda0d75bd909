import TrackingPlan.Bindings.Item
import TrackingPlan.Bindings.Token

/-!
# Spelling items out as tokens

`rt` is the path of the library that emitted code calls: it holds the traits `Encode` and
`EncodeObject`, the JSON types, and the client trait with its options.

§1 types and docs · §2 declarations · §3 the code that writes values · §4 methods · §5 the wrapper ·
§6 items.
-/

namespace TrackingPlan.Bindings

/-- The path of the library that emitted code calls. -/
abbrev RuntimePath := List Token

/-! ## §1 Types and docs -/

/-- A name in the library. -/
def inRuntime (rt : RuntimePath) (name : String) : List Token :=
  rt ++ code "::" ++ code name

/-- The emitted name of a scalar kind. -/
def scalarWord : ScalarKind → String
  | .boolean => "bool"
  | .integer => "i64"
  | .number => "f64"
  | .string => "String"

/-- The name in the library of untyped values. -/
def untypedName : UntypedKind → String
  | .object => "JsonObject"
  | .any => "JsonValue"

/-- A type. -/
def TypeExpr.tokens (rt : RuntimePath) : TypeExpr → List Token
  | .scalar kind => code (scalarWord kind)
  | .untyped kind => inRuntime rt (untypedName kind)
  | .list item => code "Vec <" ++ item.tokens rt ++ code ">"
  | .named name => [.ident name]

/-- A type that may be absent unless it is required. -/
def presence (required : Bool) (type : List Token) : List Token :=
  if required then type else code "Option <" ++ type ++ code ">"

/-- Lines of a doc comment that are computed. -/
def docTokens (lines : List String) : List Token :=
  lines.flatMap fun line => [.mark "#", square (code "doc =" ++ [.quoted line])]

/-- A fixed line of a doc comment. -/
def fixedDoc (line : String) : List Token :=
  [.mark "#", square (code "doc =" ++ [.doc line])]

/-- The traits that a declared type derives. -/
def deriveTokens (traits : String) : List Token :=
  [.mark "#", square [.word "derive", round (code traits)]]

/-- Type names keep the underscores of the plan. -/
def allowNames : List Token :=
  [.mark "#", square [.word "allow", round (code "non_camel_case_types")]]

/-! ## §2 Declarations -/

/-- A field of a case, and after a word of visibility a field of a record. -/
def FieldDecl.tokens (rt : RuntimePath) (visibility : List Token) (f : FieldDecl) : List Token :=
  docTokens f.docs ++ visibility ++ [.ident f.name] ++ code ":" ++
    presence f.required (f.type.tokens rt) ++ code ","

/-- A case. -/
def CaseDecl.tokens (rt : RuntimePath) : CaseDecl → List Token
  | .wrapped docs name type => docTokens docs ++ [.ident name, round (type.tokens rt)] ++ code ","
  | .fields docs name decls =>
    docTokens docs ++ [.ident name, braces (decls.flatMap (·.tokens rt []))] ++ code ","

/-- **A declaration.**  An enumeration also lists its own cases. -/
def Declaration.tokens (rt : RuntimePath) : Declaration → List Token
  | .typeAlias docs name target =>
    docTokens docs ++ allowNames ++ code "pub type" ++ [.ident name] ++ code "=" ++
      target.tokens rt ++ code ";"
  | .record docs name fields =>
    docTokens docs ++ deriveTokens "Debug , Clone , PartialEq" ++ allowNames ++
      code "pub struct" ++
      [.ident name, braces (fields.flatMap (·.tokens rt (code "pub")))]
  | .enumeration docs name cases =>
    docTokens docs ++ deriveTokens "Debug , Clone , Copy , PartialEq , Eq , Hash" ++ allowNames ++
      code "pub enum" ++
      [.ident name,
        braces (cases.flatMap fun c => docTokens [c.doc] ++ [.ident c.name] ++ code ",")] ++
      code "impl" ++
      [.ident name,
        braces (fixedDoc " Get all variants of this enum." ++
          code "pub const fn variants" ++ [round []] ++ code "-> & 'static" ++
          [square (code "Self"),
            braces (code "&" ++
              [square (cases.flatMap fun c => code "Self ::" ++ [.ident c.name] ++ code ",")])])]
  | .variant docs name cases =>
    docTokens docs ++ deriveTokens "Debug , Clone , PartialEq" ++ allowNames ++
      code "pub enum" ++ [.ident name, braces (cases.flatMap (·.tokens rt))]

/-! ## §3 The code that writes values -/

/-- The value of a literal, built in the library's JSON type.  A number that is no signed 64-bit
integer is given in double precision. -/
def literalTokens (rt : RuntimePath) : Literal → List Token
  | .bool b => inRuntime rt "JsonValue :: Bool" ++ [round (code (if b then "true" else "false"))]
  | .integer i => inRuntime rt "JsonValue :: from" ++ [round [.int64 i]]
  | .number n => inRuntime rt "JsonValue :: from" ++ [round [.float64 n.toBinary64]]
  | .string s =>
    inRuntime rt "JsonValue :: String" ++
      [round ([.quoted s] ++ code ". to_string" ++ [round []])]

/-- The value written for an expression. -/
def encodeCall (rt : RuntimePath) (access : List Token) : List Token :=
  inRuntime rt "Encode :: encode" ++ [round access]

/-- A statement that writes a key. -/
def insertStatement (key : String) (value : List Token) : List Token :=
  code "__encoded . insert" ++
    [round ([.quoted key] ++ code ". to_string" ++ [round []] ++ code "," ++ value)] ++ code ";"

/-- **The statement of an insert.**  `access` reaches the value of a field. -/
def Insert.tokens (rt : RuntimePath) (access : Identifier → List Token) : Insert → List Token
  | .field key name true => insertStatement key (encodeCall rt (access name))
  | .field key name false =>
    code "if let Some" ++ [round (code "value")] ++ code "=" ++ access name ++
      [braces (insertStatement key (encodeCall rt (code "value")))]
  | .fixed key value => insertStatement key (literalTokens rt value)
  | .supplied key name => insertStatement key (encodeCall rt [.ident name])

/-- The body that builds an object. -/
def objectBody (rt : RuntimePath) (access : Identifier → List Token) (inserts : List Insert) :
    List Token :=
  let new := inRuntime rt "JsonObject :: new" ++ [round []]
  if inserts.isEmpty then
    new
  else
    code "let mut __encoded =" ++ new ++ code ";" ++
      inserts.flatMap (·.tokens rt access) ++ code "__encoded"

/-- The implementation of a trait of the library by a method without arguments. -/
def implTokens (rt : RuntimePath) (traitName : String) (name : Identifier) (method result : String)
    (body : List Token) : List Token :=
  code "impl" ++ inRuntime rt traitName ++ code "for" ++
    [.ident name,
      braces (code "fn" ++ code method ++ [round (code "& self")] ++ code "->" ++
        inRuntime rt result ++ [braces body])]

/-- The implementation that writes a value. -/
def encodeTokens (rt : RuntimePath) (name : Identifier) (body : List Token) : List Token :=
  implTokens rt "Encode" name "encode" "JsonValue" body

/-- The two implementations of a type that is written as an object. -/
def objectTokens (rt : RuntimePath) (name : Identifier) (body : List Token) : List Token :=
  implTokens rt "EncodeObject" name "encode_object" "JsonObject" body ++
    encodeTokens rt name
      (inRuntime rt "JsonValue :: Object" ++
        [round (inRuntime rt "EncodeObject :: encode_object" ++ [round (code "self")])])

/-- Reaches a field of the value itself. -/
def selfAccess (name : Identifier) : List Token :=
  code "& self ." ++ [.ident name]

/-- Reaches a field that a case took out. -/
def boundAccess (name : Identifier) : List Token :=
  [.ident name]

/-- The code of a case written as an object. -/
def ObjectArm.tokens (rt : RuntimePath) (a : ObjectArm) : List Token :=
  code "Self ::" ++
    [.ident a.name, braces (a.bindings.flatMap fun b => [.ident b] ++ code ",")] ++ code "=>" ++
    [braces (objectBody rt boundAccess a.inserts)]

/-- **The code that writes values of a type.** -/
def EncodeImpl.tokens (rt : RuntimePath) : EncodeImpl → List Token
  | .record name inserts => objectTokens rt name (objectBody rt selfAccess inserts)
  | .enumeration name arms =>
    encodeTokens rt name
      (code "match * self" ++
        [braces (arms.flatMap fun (case, value) =>
          code "Self ::" ++ [.ident case] ++ code "=>" ++ literalTokens rt value ++ code ",")])
  | .bare name cases =>
    encodeTokens rt name
      (code "match self" ++
        [braces (cases.flatMap fun case =>
          code "Self ::" ++ [.ident case, round (code "value")] ++ code "=>" ++
            encodeCall rt (code "value") ++ code ",")])
  | .object name arms =>
    objectTokens rt name (code "match self" ++ [braces (arms.flatMap (·.tokens rt))])

/-! ## §4 Methods -/

/-- The arguments that come before the payload. -/
def leadingTokens : CallKind → List Token
  | .track => []
  | .identify => code "user_id : Option < & str > ,"
  | .group => code "group_id : & str ,"
  | .screen => code "screen_name : & str , category : Option < & str > ,"
  | .page => code "name : & str , category : Option < & str > ,"

/-- The argument of the payload. -/
def argumentTokens (rt : RuntimePath) (part : CallPart) : Argument → List Token
  | .none => []
  | .untyped => code part.argumentName ++ code ":" ++ inRuntime rt "JsonObject"
  | .typed type => code part.argumentName ++ code ": &" ++ type.tokens rt

/-- The payload as an object, if there is an argument for it. -/
def payloadTokens? (rt : RuntimePath) (part : CallPart) : Argument → Option (List Token)
  | .none => none
  | .untyped => some (code part.argumentName)
  | .typed _ =>
    some (inRuntime rt "EncodeObject :: encode_object" ++ [round (code part.argumentName)])

/-- The empty text in place of an argument that is not given. -/
def orEmpty (argument : String) : List Token :=
  code argument ++ code ". unwrap_or" ++ [round [.quoted ""]]

/-- What the client is called with before the payload. -/
def targetTokens (call : CallKind) (event : String) : List Token :=
  match call with
  | .track => [.quoted event]
  | .identify => orEmpty "user_id"
  | .group => code "group_id"
  | .screen => code "screen_name ," ++ orEmpty "category"
  | .page => code "name ," ++ orEmpty "category"

/-- **A method.**  Context traits travel with the options of the call, and its payload is empty. -/
def Method.tokens (rt : RuntimePath) (m : Method) : List Token :=
  let empty := inRuntime rt "JsonObject :: new" ++ [round []]
  let plain := inRuntime rt "CallOptions :: new" ++ [round (code "& self . context")]
  let (payload, options) :=
    match m.part, payloadTokens? rt m.part m.argument with
    | .contextTraits, some encoded =>
      (empty, plain ++ code ". with_context_traits" ++ [round encoded])
    | _, encoded => (encoded.getD empty, plain)
  docTokens m.docs ++ code "pub fn" ++
    [.ident m.name,
      round (code "& self ," ++ leadingTokens m.call ++ argumentTokens rt m.part m.argument),
      braces (code "let options =" ++ options ++ code "; self . client ." ++ code m.call.text ++
        [round (targetTokens m.call m.event ++ code "," ++ payload ++ code ", & options")] ++
        code ";")]

/-! ## §5 The wrapper -/

/-- A constant text of the wrapper. -/
def textConst (doc name value : String) : List Token :=
  fixedDoc doc ++ code "pub const" ++ code name ++ code ": & 'static str =" ++ [.quoted value] ++
    code ";"

/-- The constants of the wrapper. -/
def constantTokens (w : Wrapper) : List Token :=
  textConst " Platform reported in the context block." "PLATFORM" w.platform ++
    textConst " Version of the generator that produced this file." "GENERATOR_VERSION"
      w.generatorVersion ++
    textConst " Tracking plan identifier." "TRACKING_PLAN_ID" w.metadata.planId ++
    fixedDoc " Tracking plan version." ++ code "pub const TRACKING_PLAN_VERSION : i64 =" ++
      [.int64 w.metadata.planVersion] ++ code ";"

/-- A function of the wrapper itself. -/
def ownFunction (doc name : String) (parameters result body : List Token) : List Token :=
  fixedDoc doc ++ code "pub fn" ++ code name ++ [round parameters] ++ code "->" ++ result ++
    [braces body]

/-- The functions that every wrapper has. -/
def ownFunctionTokens (rt : RuntimePath) : List Token :=
  ownFunction " Wrap an analytics client." "new" (code "client : C") (code "Self")
      (code "let context =" ++ inRuntime rt "EventContext :: new" ++
        [round (code "Self :: PLATFORM , Self :: GENERATOR_VERSION ," ++
          code "Self :: TRACKING_PLAN_ID , Self :: TRACKING_PLAN_VERSION ,")] ++
        code ". to_context" ++ [round []] ++ code "; Self" ++
        [braces (code "client , context")]) ++
    ownFunction " The wrapped client." "client" (code "& self") (code "& C")
      (code "& self . client") ++
    ownFunction " The context block sent with every call." "context" (code "& self")
      (code "&" ++ inRuntime rt "JsonObject") (code "& self . context") ++
    ownFunction " Unwrap the client." "into_inner" (code "self") (code "C") (code "self . client")

/-- **The wrapper**: its type, its constants, its own functions and the methods of the rules. -/
def Wrapper.tokens (rt : RuntimePath) (w : Wrapper) : List Token :=
  let client := inRuntime rt "AnalyticsClient"
  docTokens [" Typed analytics calls for the " ++ ticked w.planName ++ " tracking plan."] ++
    deriveTokens "Debug" ++ code "pub struct" ++ [.ident w.name] ++ code "< C :" ++ client ++
    code ">" ++
    [braces (code "client : C , context :" ++ inRuntime rt "JsonObject" ++ code ",")] ++
    code "impl < C :" ++ client ++ code ">" ++ [.ident w.name] ++ code "< C >" ++
    [braces (constantTokens w ++ ownFunctionTokens rt ++ w.methods.flatMap (·.tokens rt))]

/-! ## §6 Items -/

/-- **An item.** -/
def Item.tokens (rt : RuntimePath) : Item → List Token
  | .declaration d => d.tokens rt
  | .encodeImpl i => i.tokens rt
  | .wrapper w => w.tokens rt

/-- The text of an item. -/
def Item.text (rt : RuntimePath) (i : Item) : String :=
  tokensText (i.tokens rt)

end TrackingPlan.Bindings
