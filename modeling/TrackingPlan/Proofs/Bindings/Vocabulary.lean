import TrackingPlan.Bindings.Print
import TrackingPlan.Proofs.Bindings.Mentions
import TrackingPlan.Proofs.Bindings.TokenText

/-!
# The vocabulary of emitted code

Every item is spelled out from a fixed vocabulary, the path of the library, identifiers, texts in
quotes and numbers (`Admitted`).  Names and texts of a plan stand in identifiers and quotes only,
and the identifiers are those of the item (`Item.of_mem_leaves`).

§1 the vocabulary · §2 tokens that emitted code may hold · §3 types and declarations · §4 the code
that writes values · §5 the wrapper, and items.
-/

namespace TrackingPlan.Bindings

/-! ## §1 The vocabulary -/

/-- **The phrases of emitted code**, by what they are about. -/
abbrev phrases : List String := [
  -- types, and the names in the library
  "::", "bool", "i64", "f64", "String", "Vec <", ">", "Option <", "JsonObject", "JsonValue",
  "JsonValue :: Bool", "JsonValue :: from", "JsonValue :: String", "JsonValue :: Object",
  "JsonObject :: new", "Encode", "EncodeObject", "Encode :: encode",
  "EncodeObject :: encode_object", "AnalyticsClient", "CallOptions :: new", "EventContext :: new",
  -- declarations
  "doc =", "non_camel_case_types", "Debug", "Debug , Clone , PartialEq",
  "Debug , Clone , Copy , PartialEq , Eq , Hash", "pub", "pub type", "pub struct", "pub enum",
  "impl", ":", ",", ";", "=", "&", "Self", "Self ::", "pub const fn variants", "-> & 'static",
  -- the code that writes values
  "true", "false", ". to_string", "__encoded", "__encoded . insert", "let mut __encoded =",
  "if let Some", "value", "for", "fn", "encode", "encode_object", "& self", "& self .", "self",
  "->", "=>", "match self", "match * self",
  -- methods
  "user_id : Option < & str > ,", "group_id : & str ,",
  "screen_name : & str , category : Option < & str > ,",
  "name : & str , category : Option < & str > ,", "properties", "traits", ": &", "user_id",
  "group_id", "screen_name ,", "name ,", "category", ". unwrap_or", "& self . context",
  ". with_context_traits", "pub fn", "& self ,", "let options =", "; self . client .", "track",
  "identify", "group", "screen", "page", ", & options",
  -- the wrapper
  "< C :", "< C >", "impl < C :", "client : C , context :", "pub const", ": & 'static str =",
  "PLATFORM", "GENERATOR_VERSION", "TRACKING_PLAN_ID", "pub const TRACKING_PLAN_VERSION : i64 =",
  "new", "client : C", "let context =",
  "Self :: PLATFORM , Self :: GENERATOR_VERSION ,",
  "Self :: TRACKING_PLAN_ID , Self :: TRACKING_PLAN_VERSION ,", ". to_context", "; Self",
  "client , context", "client", "& C", "& self . client", "context", "into_inner", "C",
  "self . client"]

/-- The fixed lines of doc comments. -/
abbrev fixedDocs : List String := [
  " Get all variants of this enum.", " Platform reported in the context block.",
  " Version of the generator that produced this file.", " Tracking plan identifier.",
  " Tracking plan version.", " Wrap an analytics client.", " The wrapped client.",
  " The context block sent with every call.", " Unwrap the client."]

/-- **A token of the vocabulary**: it stands in a phrase, begins an attribute, or is a fixed line
of a doc comment. -/
inductive InVocabulary : Token → Prop
  | phrase {text : String} {t : Token} : text ∈ phrases → t ∈ code text → InVocabulary t
  | attributeMark : InVocabulary (.mark "#")
  | derive : InVocabulary (.word "derive")
  | allow : InVocabulary (.word "allow")
  | doc {line : String} : line ∈ fixedDocs → InVocabulary (.doc line)

/-! ## §2 Tokens that emitted code may hold -/

/-- **A token that emitted code may hold**, given the path of the library and which identifiers
there may be. -/
inductive Admitted (rt : RuntimePath) (named : Identifier → Prop) : Token → Prop
  | fixed {t : Token} : InVocabulary t → Admitted rt named t
  | library {t : Token} : t ∈ leavesOf rt → Admitted rt named t
  | identifier {i : Identifier} : named i → Admitted rt named (.ident i)
  | quoted (s : String) : Admitted rt named (.quoted s)
  | int64 (n : Int64) : Admitted rt named (.int64 n)
  | float64 (x : Binary64) : Admitted rt named (.float64 x)

section

variable {rt : RuntimePath} {named : Identifier → Prop}

/-- A phrase is of the vocabulary. -/
theorem admitted_code {text : String} (h : text ∈ phrases) :
    AllLeaves (Admitted rt named) (code text) := by
  rw [allLeaves_iff]
  intro t ht
  have hleaf : t.isGroup = false := by
    obtain ⟨piece, -, rfl⟩ := List.mem_map.mp ht
    split <;> rfl
  exact (Token.holds_of_not_group hleaf).mpr (.fixed (.phrase h ht))

@[simp]
theorem admitted_runtime : AllLeaves (Admitted rt named) rt :=
  fun _ => .library

theorem admitted_inRuntime {name : String} (h : name ∈ phrases) :
    AllLeaves (Admitted rt named) (inRuntime rt name) := by
  simp [inRuntime, admitted_code, h]

@[simp]
theorem admitted_round {body : List Token} :
    (round body).Holds (Admitted rt named) ↔ AllLeaves (Admitted rt named) body :=
  Token.holds_group

@[simp]
theorem admitted_square {body : List Token} :
    (square body).Holds (Admitted rt named) ↔ AllLeaves (Admitted rt named) body :=
  Token.holds_group

@[simp]
theorem admitted_braces {body : List Token} :
    (braces body).Holds (Admitted rt named) ↔ AllLeaves (Admitted rt named) body :=
  Token.holds_group

@[simp]
theorem admitted_quoted {text : String} : (Token.quoted text).Holds (Admitted rt named) :=
  (Token.holds_of_not_group rfl).mpr (.quoted text)

@[simp]
theorem admitted_int64 {n : Int64} : (Token.int64 n).Holds (Admitted rt named) :=
  (Token.holds_of_not_group rfl).mpr (.int64 n)

@[simp]
theorem admitted_float64 {x : Binary64} : (Token.float64 x).Holds (Admitted rt named) :=
  (Token.holds_of_not_group rfl).mpr (.float64 x)

@[simp]
theorem admitted_attributeMark : (Token.mark "#").Holds (Admitted rt named) :=
  (Token.holds_of_not_group rfl).mpr (.fixed .attributeMark)

@[simp]
theorem admitted_derive : (Token.word "derive").Holds (Admitted rt named) :=
  (Token.holds_of_not_group rfl).mpr (.fixed .derive)

@[simp]
theorem admitted_allow : (Token.word "allow").Holds (Admitted rt named) :=
  (Token.holds_of_not_group rfl).mpr (.fixed .allow)

theorem admitted_doc {line : String} (h : line ∈ fixedDocs) :
    (Token.doc line).Holds (Admitted rt named) :=
  (Token.holds_of_not_group rfl).mpr (.fixed (.doc h))

theorem admitted_identifier {i : Identifier} (h : named i) :
    (Token.ident i).Holds (Admitted rt named) :=
  (Token.holds_of_not_group rfl).mpr (.identifier h)

end

/-! ## §3 Types and declarations -/

section

variable {rt : RuntimePath} {named : Identifier → Prop}

theorem admitted_typeExpr {x : TypeExpr} (h : ∀ name ∈ x.names, named name) :
    AllLeaves (Admitted rt named) (x.tokens rt) := by
  induction x with
  | scalar kind => cases kind <;> exact admitted_code (by simp [scalarWord, phrases])
  | untyped kind => cases kind <;> exact admitted_inRuntime (by simp [untypedName, phrases])
  | list item ih => simp [TypeExpr.tokens, ih h, admitted_code, phrases]
  | named name =>
    have hname := (List.forall_mem_cons.mp h).1
    simp [TypeExpr.tokens, admitted_identifier hname]

theorem admitted_presence {required : Bool} {type : List Token}
    (h : AllLeaves (Admitted rt named) type) :
    AllLeaves (Admitted rt named) (presence required type) := by
  unfold presence
  split
  · exact h
  · simp [h, admitted_code, phrases]

@[simp]
theorem admitted_docTokens {lines : List String} :
    AllLeaves (Admitted rt named) (docTokens lines) := by
  simp [docTokens, admitted_code, phrases]

theorem admitted_fixedDoc {line : String} (h : line ∈ fixedDocs) :
    AllLeaves (Admitted rt named) (fixedDoc line) := by
  simp [fixedDoc, admitted_doc h, admitted_code, phrases]

theorem admitted_deriveTokens {traits : String} (h : traits ∈ phrases) :
    AllLeaves (Admitted rt named) (deriveTokens traits) := by
  simp [deriveTokens, admitted_code h]

@[simp]
theorem admitted_allowNames : AllLeaves (Admitted rt named) allowNames := by
  simp [allowNames, admitted_code, phrases]

theorem admitted_fieldDecl {visibility : List Token} {f : FieldDecl}
    (hvisibility : AllLeaves (Admitted rt named) visibility)
    (h : ∀ name ∈ f.identifiers, named name) :
    AllLeaves (Admitted rt named) (f.tokens rt visibility) := by
  obtain ⟨hname, htype⟩ := List.forall_mem_cons.mp h
  simp [FieldDecl.tokens, hvisibility, admitted_identifier hname, admitted_code, phrases,
    admitted_presence (admitted_typeExpr htype)]

theorem admitted_caseDecl {c : CaseDecl} (h : ∀ name ∈ c.identifiers, named name) :
    AllLeaves (Admitted rt named) (c.tokens rt) := by
  cases c with
  | wrapped docs name type =>
    obtain ⟨hname, htype⟩ := List.forall_mem_cons.mp h
    simp [CaseDecl.tokens, admitted_identifier hname, admitted_typeExpr htype, admitted_code,
      phrases]
  | fields docs name declared =>
    obtain ⟨hname, hfields⟩ := List.forall_mem_cons.mp h
    rw [List.forall_mem_flatMap] at hfields
    have hdeclared : ∀ f ∈ declared, AllLeaves (Admitted rt named) (f.tokens rt []) := fun f hf =>
      admitted_fieldDecl allLeaves_nil (hfields f hf)
    simp +contextual [CaseDecl.tokens, admitted_identifier hname, hdeclared, admitted_code, phrases]

theorem admitted_declaration {d : Declaration} (h : ∀ name ∈ d.identifiers, named name) :
    AllLeaves (Admitted rt named) (d.tokens rt) := by
  cases d with
  | typeAlias docs name target =>
    obtain ⟨hname, htarget⟩ := List.forall_mem_cons.mp h
    simp [Declaration.tokens, admitted_identifier hname, admitted_typeExpr htarget, admitted_code,
      phrases]
  | record docs name fields =>
    obtain ⟨hname, hfields⟩ := List.forall_mem_cons.mp h
    rw [List.forall_mem_flatMap] at hfields
    have hdeclared : ∀ f ∈ fields, AllLeaves (Admitted rt named) (f.tokens rt (code "pub")) :=
      fun f hf => admitted_fieldDecl (admitted_code (by simp [phrases])) (hfields f hf)
    simp +contextual [Declaration.tokens, admitted_identifier hname, hdeclared,
      admitted_deriveTokens, admitted_code, phrases]
  | enumeration docs name cases =>
    obtain ⟨hname, hcases⟩ := List.forall_mem_cons.mp h
    rw [List.forall_mem_map] at hcases
    have hdeclared : ∀ c ∈ cases, (Token.ident c.name).Holds (Admitted rt named) := fun c hc =>
      admitted_identifier (hcases c hc)
    simp +contextual [Declaration.tokens, admitted_identifier hname, hdeclared,
      admitted_deriveTokens, admitted_fixedDoc, admitted_code, phrases, fixedDocs]
  | variant docs name cases =>
    obtain ⟨hname, hcases⟩ := List.forall_mem_cons.mp h
    rw [List.forall_mem_flatMap] at hcases
    have hdeclared : ∀ c ∈ cases, AllLeaves (Admitted rt named) (c.tokens rt) := fun c hc =>
      admitted_caseDecl (hcases c hc)
    simp +contextual [Declaration.tokens, admitted_identifier hname, hdeclared,
      admitted_deriveTokens, admitted_code, phrases]

/-! ## §4 The code that writes values -/

theorem admitted_literalTokens (l : Literal) :
    AllLeaves (Admitted rt named) (literalTokens rt l) := by
  cases l with
  | bool b => cases b <;> simp [literalTokens, admitted_inRuntime, admitted_code, phrases]
  | integer i => simp [literalTokens, admitted_inRuntime, phrases]
  | number n => simp [literalTokens, admitted_inRuntime, phrases]
  | string s => simp [literalTokens, admitted_inRuntime, admitted_code, phrases]

theorem admitted_encodeCall {access : List Token} (h : AllLeaves (Admitted rt named) access) :
    AllLeaves (Admitted rt named) (encodeCall rt access) := by
  simp [encodeCall, h, admitted_inRuntime, phrases]

theorem admitted_insertStatement {key : String} {value : List Token}
    (h : AllLeaves (Admitted rt named) value) :
    AllLeaves (Admitted rt named) (insertStatement key value) := by
  simp [insertStatement, h, admitted_code, phrases]

/-- Fields are reached by what emitted code may hold. -/
def Reaches (rt : RuntimePath) (named : Identifier → Prop) (access : Identifier → List Token) :
    Prop :=
  ∀ {i : Identifier}, named i → AllLeaves (Admitted rt named) (access i)

theorem reaches_self : Reaches rt named selfAccess := by
  intro i hi
  simp [selfAccess, admitted_identifier hi, admitted_code, phrases]

theorem reaches_bound : Reaches rt named boundAccess := by
  intro i hi
  simp [boundAccess, admitted_identifier hi]

theorem admitted_insert {access : Identifier → List Token} (haccess : Reaches rt named access)
    {i : Insert} (h : ∀ name ∈ i.identifiers, named name) :
    AllLeaves (Admitted rt named) (i.tokens rt access) := by
  cases i with
  | field key name required =>
    have hname := haccess (List.forall_mem_cons.mp h).1
    cases required with
    | true => exact admitted_insertStatement (admitted_encodeCall hname)
    | false =>
      have hvalue : AllLeaves (Admitted rt named) (code "value") :=
        admitted_code (by simp [phrases])
      simp [Insert.tokens, hname, hvalue, admitted_insertStatement (admitted_encodeCall hvalue),
        admitted_code, phrases]
  | fixed key value => exact admitted_insertStatement (admitted_literalTokens value)
  | supplied key name =>
    have hname : (Token.ident name).Holds (Admitted rt named) :=
      admitted_identifier (List.forall_mem_cons.mp h).1
    exact admitted_insertStatement (admitted_encodeCall (by simp [hname]))

theorem admitted_objectBody {access : Identifier → List Token} (haccess : Reaches rt named access)
    {inserts : List Insert} (h : ∀ i ∈ inserts, ∀ name ∈ i.identifiers, named name) :
    AllLeaves (Admitted rt named) (objectBody rt access inserts) := by
  have hinserts : ∀ i ∈ inserts, AllLeaves (Admitted rt named) (i.tokens rt access) := fun i hi =>
    admitted_insert haccess (h i hi)
  unfold objectBody
  split
  · simp [admitted_inRuntime, phrases]
  · simp +contextual [hinserts, admitted_inRuntime, admitted_code, phrases]

theorem admitted_implTokens {traitName method result : String} {name : Identifier}
    {body : List Token} (htrait : traitName ∈ phrases) (hmethod : method ∈ phrases)
    (hresult : result ∈ phrases) (hname : named name)
    (hbody : AllLeaves (Admitted rt named) body) :
    AllLeaves (Admitted rt named) (implTokens rt traitName name method result body) := by
  simp [implTokens, hbody, admitted_identifier hname, admitted_inRuntime, htrait, hresult,
    admitted_code, hmethod, phrases]

theorem admitted_encodeTokens {name : Identifier} {body : List Token}
    (hname : named name) (hbody : AllLeaves (Admitted rt named) body) :
    AllLeaves (Admitted rt named) (encodeTokens rt name body) :=
  admitted_implTokens (by simp [phrases]) (by simp [phrases]) (by simp [phrases]) hname hbody

theorem admitted_objectTokens {name : Identifier} {body : List Token}
    (hname : named name) (hbody : AllLeaves (Admitted rt named) body) :
    AllLeaves (Admitted rt named) (objectTokens rt name body) := by
  refine allLeaves_append.mpr ⟨?_, admitted_encodeTokens hname ?_⟩
  · exact admitted_implTokens (by simp [phrases]) (by simp [phrases]) (by simp [phrases]) hname
      hbody
  · simp [admitted_inRuntime, admitted_code, phrases]

theorem admitted_objectArm {a : ObjectArm} (h : ∀ name ∈ a.identifiers, named name) :
    AllLeaves (Admitted rt named) (a.tokens rt) := by
  obtain ⟨hname, hrest⟩ := List.forall_mem_cons.mp h
  obtain ⟨hbindings, hinserts⟩ := List.forall_mem_append.mp hrest
  have hbound : ∀ b ∈ a.bindings, (Token.ident b).Holds (Admitted rt named) := fun b hb =>
    admitted_identifier (hbindings b hb)
  have hbody : AllLeaves (Admitted rt named) (objectBody rt boundAccess a.inserts) :=
    admitted_objectBody reaches_bound (List.forall_mem_flatMap.mp hinserts)
  simp +contextual [ObjectArm.tokens, hbody, hbound, admitted_identifier hname, admitted_code,
    phrases]

theorem admitted_encodeImpl {i : EncodeImpl} (h : ∀ name ∈ i.identifiers, named name) :
    AllLeaves (Admitted rt named) (i.tokens rt) := by
  cases i with
  | record name inserts =>
    obtain ⟨hname, hinserts⟩ := List.forall_mem_cons.mp h
    exact admitted_objectTokens hname
      (admitted_objectBody reaches_self (List.forall_mem_flatMap.mp hinserts))
  | enumeration name arms =>
    obtain ⟨hname, harms⟩ := List.forall_mem_cons.mp h
    rw [List.forall_mem_map] at harms
    have hcases : ∀ arm ∈ arms, (Token.ident arm.1).Holds (Admitted rt named) := fun arm harm =>
      admitted_identifier (harms arm harm)
    refine admitted_encodeTokens hname ?_
    simp +contextual [hcases, admitted_literalTokens, admitted_code, phrases]
  | bare name cases =>
    obtain ⟨hname, hcases⟩ := List.forall_mem_cons.mp h
    have hnames : ∀ case ∈ cases, (Token.ident case).Holds (Admitted rt named) := fun case hcase =>
      admitted_identifier (hcases case hcase)
    refine admitted_encodeTokens hname ?_
    simp +contextual [hnames, admitted_encodeCall, admitted_code, phrases]
  | object name arms =>
    obtain ⟨hname, harms⟩ := List.forall_mem_cons.mp h
    rw [List.forall_mem_flatMap] at harms
    have hcases : ∀ arm ∈ arms, AllLeaves (Admitted rt named) (arm.tokens rt) := fun arm harm =>
      admitted_objectArm (harms arm harm)
    refine admitted_objectTokens hname ?_
    simp +contextual [hcases, admitted_code, phrases]

/-! ## §5 The wrapper, and items -/

theorem admitted_argumentTokens {part : CallPart} {argument : Argument}
    (h : ∀ type, argument = .typed type → ∀ name ∈ type.names, named name) :
    AllLeaves (Admitted rt named) (argumentTokens rt part argument) := by
  cases argument with
  | none => exact allLeaves_nil
  | untyped =>
    cases part <;>
      simp [argumentTokens, CallPart.argumentName, admitted_inRuntime, admitted_code, phrases]
  | typed type =>
    have htype : AllLeaves (Admitted rt named) (type.tokens rt) := admitted_typeExpr (h type rfl)
    cases part <;> simp [argumentTokens, CallPart.argumentName, htype, admitted_code, phrases]

theorem admitted_targetTokens (call : CallKind) (event : String) :
    AllLeaves (Admitted rt named) (targetTokens call event) := by
  cases call <;> simp [targetTokens, orEmpty, admitted_code, phrases]

theorem admitted_payloadTokens {part : CallPart} {argument : Argument} {encoded : List Token}
    (h : payloadTokens? rt part argument = some encoded) :
    AllLeaves (Admitted rt named) encoded := by
  cases argument with
  | none => cases h
  | untyped =>
    obtain rfl := Option.some.inj h
    cases part <;> exact admitted_code (by simp [CallPart.argumentName, phrases])
  | typed type =>
    obtain rfl := Option.some.inj h
    cases part <;> simp [CallPart.argumentName, admitted_inRuntime, admitted_code, phrases]

theorem admitted_leadingTokens (call : CallKind) :
    AllLeaves (Admitted rt named) (leadingTokens call) := by
  cases call <;> simp [leadingTokens, admitted_code, phrases]

theorem admitted_callText (call : CallKind) : AllLeaves (Admitted rt named) (code call.text) := by
  cases call <;> exact admitted_code (by simp [CallKind.text, phrases])

theorem admitted_method {m : Method} (hname : named m.name)
    (huses : ∀ name ∈ m.uses, named name) : AllLeaves (Admitted rt named) (m.tokens rt) := by
  have hargument : AllLeaves (Admitted rt named) (argumentTokens rt m.part m.argument) := by
    refine admitted_argumentTokens fun type htype => ?_
    rw [Method.uses, htype] at huses
    exact huses
  unfold Method.tokens
  split
  · -- context traits travel with the options
    rename_i encoded _ hencoded
    have hcontext : AllLeaves (Admitted rt named) encoded := admitted_payloadTokens hencoded
    simp [hargument, hcontext, admitted_leadingTokens, admitted_targetTokens, admitted_callText,
      admitted_identifier hname, admitted_inRuntime, admitted_code, phrases]
  · have hpayload : AllLeaves (Admitted rt named) ((payloadTokens? rt m.part m.argument).getD
        (inRuntime rt "JsonObject :: new" ++ [round []])) := by
      cases hencoded : payloadTokens? rt m.part m.argument with
      | none => simp [admitted_inRuntime, phrases]
      | some encoded => exact admitted_payloadTokens hencoded
    simp [hargument, hpayload, admitted_leadingTokens, admitted_targetTokens, admitted_callText,
      admitted_identifier hname, admitted_inRuntime, admitted_code, phrases]

theorem admitted_textConst {doc name value : String} (hdoc : doc ∈ fixedDocs)
    (hname : name ∈ phrases) : AllLeaves (Admitted rt named) (textConst doc name value) := by
  simp [textConst, admitted_fixedDoc hdoc, admitted_code, hname, phrases]

theorem admitted_constantTokens (w : Wrapper) :
    AllLeaves (Admitted rt named) (constantTokens w) := by
  simp [constantTokens, admitted_textConst, admitted_fixedDoc, admitted_code, phrases, fixedDocs]

theorem admitted_ownFunction {doc name : String} {parameters result body : List Token}
    (hdoc : doc ∈ fixedDocs) (hname : name ∈ phrases)
    (hparameters : AllLeaves (Admitted rt named) parameters)
    (hresult : AllLeaves (Admitted rt named) result)
    (hbody : AllLeaves (Admitted rt named) body) :
    AllLeaves (Admitted rt named) (ownFunction doc name parameters result body) := by
  simp [ownFunction, admitted_fixedDoc hdoc, hname, hparameters, hresult, hbody, admitted_code,
    phrases]

theorem admitted_ownFunctionTokens : AllLeaves (Admitted rt named) (ownFunctionTokens rt) := by
  simp [ownFunctionTokens, admitted_ownFunction, admitted_inRuntime, admitted_code, phrases,
    fixedDocs]

theorem admitted_wrapper {w : Wrapper} (h : ∀ name ∈ w.identifiers, named name) :
    AllLeaves (Admitted rt named) (w.tokens rt) := by
  obtain ⟨hname, hmethods⟩ := List.forall_mem_cons.mp h
  rw [List.forall_mem_flatMap] at hmethods
  have hcalls : ∀ m ∈ w.methods, AllLeaves (Admitted rt named) (m.tokens rt) := by
    intro m hm
    obtain ⟨hname, huses⟩ := List.forall_mem_cons.mp (hmethods m hm)
    exact admitted_method hname huses
  simp +contextual [Wrapper.tokens, hcalls, admitted_constantTokens, admitted_ownFunctionTokens,
    admitted_deriveTokens, admitted_identifier hname, admitted_inRuntime, admitted_code, phrases]

/-- **An item is spelled out by what emitted code may hold**, if its identifiers may stand there. -/
theorem admitted_item {i : Item} (h : ∀ name ∈ i.identifiers, named name) :
    AllLeaves (Admitted rt named) (i.tokens rt) := by
  cases i with
  | declaration d => exact admitted_declaration h
  | encodeImpl i => exact admitted_encodeImpl h
  | wrapper w => exact admitted_wrapper h

end

end TrackingPlan.Bindings
