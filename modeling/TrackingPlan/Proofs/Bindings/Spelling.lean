import TrackingPlan.Bindings.Print
import TrackingPlan.Proofs.Bindings.LiteralCode

/-!
# How emitted code is spelled

What emitted code declares, reads and calls is said here of its tokens.  Each kind of code has a
form, written out word by word and mark by mark: only attributes, with the doc comments among them,
and the texts of constants are left open.  `rt` is the path of the library in all of them.  Every
item is spelled in its form by its own tokens (`Item.spelled_tokens`), one lemma for each printer.

§1 parts in a row · §2 types and fields · §3 declarations · §4 statements and arms · §5 the code
that writes values · §6 methods · §7 the wrapper, and items.
-/

namespace TrackingPlan.Bindings

open Token (word mark ident quoted int64 float64 group)

/-! ## §1 Parts in a row -/

/-- **Tokens that spell parts one after the other**, each in a form. -/
inductive Row {α : Type} (form : α → List Token → Prop) : List α → List Token → Prop
  | nil : Row form [] []
  | cons {x : α} {xs : List α} {ts us : List Token} : form x ts → Row form xs us →
      Row form (x :: xs) (ts ++ us)

theorem row_flatMap {α : Type} {form : α → List Token → Prop} {tokens : α → List Token}
    (h : ∀ x, form x (tokens x)) (xs : List α) : Row form xs (xs.flatMap tokens) := by
  induction xs with
  | nil => exact .nil
  | cons x xs ih => exact .cons (h x) ih

namespace Row

variable {α : Type} {form : α → List Token → Prop}

theorem singleton {x : α} {ts : List Token} (h : form x ts) : Row form [x] ts := by
  have hrow : Row form [x] (ts ++ []) := .cons h .nil
  rwa [List.append_nil] at hrow

theorem map {β : Type} {form' : β → List Token → Prop} {f : α → β}
    (h : ∀ {x : α} {ts : List Token}, form x ts → form' (f x) ts) {xs : List α} {ts : List Token}
    (hrow : Row form xs ts) : Row form' (xs.map f) ts := by
  induction hrow with
  | nil => exact .nil
  | cons hx _ ih => exact .cons (h hx) ih

theorem append {xs ys : List α} {ts us : List Token} (h : Row form xs ts) (h' : Row form ys us) :
    Row form (xs ++ ys) (ts ++ us) := by
  induction h with
  | nil => exact h'
  | cons hx _ ih =>
    rw [List.append_assoc]
    exact .cons hx ih

end Row

/-- **Attributes**, any number of them. -/
inductive Attributes : List Token → Prop
  | nil : Attributes []
  | cons {body rest : List Token} : Attributes rest →
      Attributes (.mark "#" :: .group .square body :: rest)

theorem Attributes.append {ts us : List Token} (h : Attributes ts) (h' : Attributes us) :
    Attributes (ts ++ us) := by
  induction h with
  | nil => exact h'
  | cons _ ih => exact .cons ih

theorem attributes_docTokens (lines : List String) : Attributes (docTokens lines) := by
  induction lines with
  | nil => exact .nil
  | cons line rest ih => exact .cons ih

theorem attributes_fixedDoc (line : String) : Attributes (fixedDoc line) :=
  .cons .nil

/-- What stands before a declaration. -/
theorem attributes_declaration (docs : List String) :
    Attributes (docTokens docs ++ allowNames) ∧
      ∀ traits, Attributes (docTokens docs ++ (deriveTokens traits ++ allowNames)) :=
  ⟨(attributes_docTokens docs).append (.cons .nil),
    fun _ => (attributes_docTokens docs).append (.cons (.cons .nil))⟩

/-- A name in the library, piece by piece. -/
def inLibrary (rt : RuntimePath) (path : List String) : List Token :=
  rt ++ path.flatMap fun name => [mark "::", word name]

/-- Whether a piece of fixed code is a word, and the piece. -/
def pieceOf (piece : String) : Bool × String :=
  (piece.toList.head?.any fun c => c.isAlpha || c == '_', piece)

/-- The piece of fixed code that a token is. -/
def Token.piece? : Token → Option (Bool × String)
  | .word text => some (true, text)
  | .mark text => some (false, text)
  | _ => none

theorem Token.eq_of_piece? {t : Token} {isWord : Bool} {text : String}
    (h : t.piece? = some (isWord, text)) : t = if isWord then .word text else .mark text := by
  cases t with
  | word text =>
    obtain ⟨rfl, rfl⟩ := Prod.mk.inj (Option.some.inj h)
    rfl
  | mark text =>
    obtain ⟨rfl, rfl⟩ := Prod.mk.inj (Option.some.inj h)
    rfl
  | _ => cases h

/-- **Fixed code is what its text is split into.**  The pieces are compared, which can be computed
fast. -/
theorem code_of_pieces {text : String} {ts : List Token}
    (h : (splitSteps text " " 64 0 0 0 []).map (·.map fun t => some (pieceOf t)) =
      some (ts.map Token.piece?)) : code text = ts := by
  obtain ⟨parts, hparts, hpieces⟩ := Option.map_eq_some_iff.mp h
  rw [code_eq parts 64 hparts]
  clear hparts h
  induction parts generalizing ts with
  | nil =>
    cases ts with
    | nil => rfl
    | cons t rest => cases hpieces
  | cons piece rest ih =>
    cases ts with
    | nil => cases hpieces
    | cons t ts =>
      obtain ⟨hpiece, hrest⟩ := List.cons.inj hpieces
      rw [List.map_cons, ih hrest, Token.eq_of_piece? hpiece.symm]

variable {rt : RuntimePath}

/-! ## §2 Types and fields -/

/-- **How a type is spelled.** -/
inductive TypeExpr.Spelled (rt : RuntimePath) : TypeExpr → List Token → Prop
  | boolean : Spelled rt (.scalar .boolean) [word "bool"]
  | integer : Spelled rt (.scalar .integer) [word "i64"]
  | number : Spelled rt (.scalar .number) [word "f64"]
  | string : Spelled rt (.scalar .string) [word "String"]
  | object : Spelled rt (.untyped .object) (inLibrary rt ["JsonObject"])
  | any : Spelled rt (.untyped .any) (inLibrary rt ["JsonValue"])
  | list {item : TypeExpr} {ts : List Token} : item.Spelled rt ts →
      Spelled rt (.list item) ([word "Vec", mark "<"] ++ ts ++ [mark ">"])
  | named (name : Identifier) : Spelled rt (.named name) [ident name]

/-- **How a field is spelled**: its type stands in `Option < … >` exactly if it may be absent. -/
inductive FieldDecl.Spelled (rt : RuntimePath) (visibility : List Token) :
    FieldDecl → List Token → Prop
  | required {docs : List String} {name : Identifier} {type : TypeExpr}
      {attributes ts : List Token} : Attributes attributes → type.Spelled rt ts →
      Spelled rt visibility ⟨docs, name, type, true⟩
        (attributes ++ visibility ++ [ident name, mark ":"] ++ ts ++ [mark ","])
  | optional {docs : List String} {name : Identifier} {type : TypeExpr}
      {attributes ts : List Token} : Attributes attributes → type.Spelled rt ts →
      Spelled rt visibility ⟨docs, name, type, false⟩
        (attributes ++ visibility ++ [ident name, mark ":", word "Option", mark "<"] ++ ts ++
          [mark ">", mark ","])

/-- The fixed code of types and fields. -/
theorem code_types :
    code "::" = [mark "::"] ∧
    code "bool" = [word "bool"] ∧
    code "i64" = [word "i64"] ∧
    code "f64" = [word "f64"] ∧
    code "String" = [word "String"] ∧
    code "JsonObject" = [word "JsonObject"] ∧
    code "JsonValue" = [word "JsonValue"] ∧
    code "Vec <" = [word "Vec", mark "<"] ∧
    code "Option <" = [word "Option", mark "<"] ∧
    code ">" = [mark ">"] ∧
    code ":" = [mark ":"] ∧
    code "," = [mark ","] := by
  and_intros <;> exact code_of_pieces (by decide +kernel)

theorem TypeExpr.spelled_tokens (x : TypeExpr) (rt : RuntimePath) : x.Spelled rt (x.tokens rt) := by
  induction x with
  | scalar kind =>
    cases kind <;> simp only [TypeExpr.tokens, scalarWord, code_types] <;> constructor
  | untyped kind =>
    cases kind with
    | object =>
      have h : TypeExpr.Spelled rt (.untyped .object) _ := .object
      simpa [TypeExpr.tokens, untypedName, inRuntime, inLibrary, code_types] using h
    | any =>
      have h : TypeExpr.Spelled rt (.untyped .any) _ := .any
      simpa [TypeExpr.tokens, untypedName, inRuntime, inLibrary, code_types] using h
  | list item ih => simpa [TypeExpr.tokens, code_types] using Spelled.list ih
  | named name => exact .named name

theorem FieldDecl.spelled_tokens (f : FieldDecl) (rt : RuntimePath) (visibility : List Token) :
    f.Spelled rt visibility (f.tokens rt visibility) := by
  obtain ⟨docs, name, type, required⟩ := f
  cases required with
  | true =>
    have h : FieldDecl.Spelled rt visibility ⟨docs, name, type, true⟩ _ :=
      .required (attributes_docTokens docs) (type.spelled_tokens rt)
    simpa [FieldDecl.tokens, presence, code_types] using h
  | false =>
    have h : FieldDecl.Spelled rt visibility ⟨docs, name, type, false⟩ _ :=
      .optional (attributes_docTokens docs) (type.spelled_tokens rt)
    simpa [FieldDecl.tokens, presence, code_types] using h

/-! ## §3 Declarations -/

/-- **How a case is spelled**: what it wraps in round brackets, or its fields in braces. -/
inductive CaseDecl.Spelled (rt : RuntimePath) : CaseDecl → List Token → Prop
  | wrapped {docs : List String} {name : Identifier} {type : TypeExpr}
      {attributes ts : List Token} : Attributes attributes → type.Spelled rt ts →
      Spelled rt (.wrapped docs name type) (attributes ++ [ident name, group .round ts, mark ","])
  | fields {docs : List String} {name : Identifier} {fields : List FieldDecl}
      {attributes ts : List Token} :
      Attributes attributes → Row (FieldDecl.Spelled rt []) fields ts →
      Spelled rt (.fields docs name fields)
        (attributes ++ [ident name, group .brace ts, mark ","])

/-- How a case of an enumeration is spelled. -/
inductive EnumCaseDecl.Spelled : EnumCaseDecl → List Token → Prop
  | mk {c : EnumCaseDecl} {attributes : List Token} : Attributes attributes →
      Spelled c (attributes ++ [ident c.name, mark ","])

/-- The function that gives all cases of an enumeration. -/
def variantsFunction (cases : List Identifier) : List Token :=
  [word "pub", word "const", word "fn", word "variants", group .round [], mark "->",
    mark "&", mark "'static", group .square [word "Self"],
    group .brace [mark "&", group .square (cases.flatMap fun case =>
      [word "Self", mark "::", ident case, mark ","])]]

/-- **How a declaration is spelled.**  That of an enumeration goes on with a list of its cases. -/
inductive Declaration.Spelled (rt : RuntimePath) : Declaration → List Token → Prop
  | typeAlias {docs : List String} {name : Identifier} {target : TypeExpr}
      {attributes ts : List Token} : Attributes attributes → target.Spelled rt ts →
      Spelled rt (.typeAlias docs name target)
        (attributes ++ [word "pub", word "type", ident name, mark "="] ++ ts ++ [mark ";"])
  | record {docs : List String} {name : Identifier} {fields : List FieldDecl}
      {attributes ts : List Token} : Attributes attributes →
      Row (FieldDecl.Spelled rt [word "pub"]) fields ts →
      Spelled rt (.record docs name fields)
        (attributes ++ [word "pub", word "struct", ident name, group .brace ts])
  | enumeration {docs : List String} {name : Identifier} {cases : List EnumCaseDecl}
      {attributes ts inner : List Token} : Attributes attributes →
      Row EnumCaseDecl.Spelled cases ts → Attributes inner →
      Spelled rt (.enumeration docs name cases)
        (attributes ++ [word "pub", word "enum", ident name, group .brace ts, word "impl",
          ident name, group .brace (inner ++ variantsFunction (cases.map EnumCaseDecl.name))])
  | variant {docs : List String} {name : Identifier} {cases : List CaseDecl}
      {attributes ts : List Token} : Attributes attributes → Row (CaseDecl.Spelled rt) cases ts →
      Spelled rt (.variant docs name cases)
        (attributes ++ [word "pub", word "enum", ident name, group .brace ts])

/-- The fixed code of declarations. -/
theorem code_declarations :
    code "pub" = [word "pub"] ∧
    code "pub type" = [word "pub", word "type"] ∧
    code "pub struct" = [word "pub", word "struct"] ∧
    code "pub enum" = [word "pub", word "enum"] ∧
    code "impl" = [word "impl"] ∧
    code "=" = [mark "="] ∧
    code ";" = [mark ";"] ∧
    code "&" = [mark "&"] ∧
    code "Self" = [word "Self"] ∧
    code "Self ::" = [word "Self", mark "::"] ∧
    code "-> & 'static" = [mark "->", mark "&", mark "'static"] ∧
    code "pub const fn variants" = [word "pub", word "const", word "fn", word "variants"] := by
  and_intros <;> exact code_of_pieces (by decide +kernel)

theorem CaseDecl.spelled_tokens (c : CaseDecl) (rt : RuntimePath) : c.Spelled rt (c.tokens rt) := by
  cases c with
  | wrapped docs name type =>
    have h : CaseDecl.Spelled rt (.wrapped docs name type) _ :=
      .wrapped (attributes_docTokens docs) (type.spelled_tokens rt)
    simpa [CaseDecl.tokens, round, code_types] using h
  | fields docs name fields =>
    have h : CaseDecl.Spelled rt (.fields docs name fields) _ :=
      .fields (attributes_docTokens docs) (row_flatMap (fun f => f.spelled_tokens rt []) fields)
    simpa [CaseDecl.tokens, braces, code_types] using h

theorem EnumCaseDecl.row_tokens (cases : List EnumCaseDecl) : Row EnumCaseDecl.Spelled cases
    (cases.flatMap fun c => docTokens [c.doc] ++ [ident c.name] ++ code ",") := by
  refine row_flatMap (fun c => ?_) cases
  have h : c.Spelled _ := .mk (attributes_docTokens [c.doc])
  simpa [code_types] using h

/-- **A declaration is spelled by its tokens.** -/
theorem Declaration.spelled_tokens (d : Declaration) (rt : RuntimePath) :
    d.Spelled rt (d.tokens rt) := by
  cases d with
  | typeAlias docs name target =>
    obtain ⟨hattributes, -⟩ := attributes_declaration docs
    have h : Declaration.Spelled rt (.typeAlias docs name target) _ :=
      .typeAlias hattributes (target.spelled_tokens rt)
    simpa [Declaration.tokens, code_declarations] using h
  | record docs name fields =>
    obtain ⟨-, hattributes⟩ := attributes_declaration docs
    have h : Declaration.Spelled rt (.record docs name fields) _ :=
      .record (hattributes "Debug , Clone , PartialEq")
        (row_flatMap (fun f => f.spelled_tokens rt [word "pub"]) fields)
    simpa [Declaration.tokens, braces, code_declarations] using h
  | enumeration docs name cases =>
    obtain ⟨-, hattributes⟩ := attributes_declaration docs
    have h : Declaration.Spelled rt (.enumeration docs name cases) _ :=
      .enumeration (hattributes "Debug , Clone , Copy , PartialEq , Eq , Hash")
        (EnumCaseDecl.row_tokens cases) (attributes_fixedDoc " Get all variants of this enum.")
    simpa [Declaration.tokens, variantsFunction, List.flatMap_map, round, square, braces,
      code_declarations, code_types] using h
  | variant docs name cases =>
    obtain ⟨-, hattributes⟩ := attributes_declaration docs
    have h : Declaration.Spelled rt (.variant docs name cases) _ :=
      .variant (hattributes "Debug , Clone , PartialEq")
        (row_flatMap (fun c => c.spelled_tokens rt) cases)
    simpa [Declaration.tokens, braces, code_declarations] using h

/-! ## §4 Statements and arms -/

/-- **How a fixed value is spelled.**  A number that is no signed 64-bit integer is given in double
precision. -/
inductive LiteralSpelled (rt : RuntimePath) : Literal → List Token → Prop
  | bool (b : Bool) :
      LiteralSpelled rt (.bool b) (jsonCall rt .wrapBool [word (if b then "true" else "false")])
  | integer (i : Int64) : LiteralSpelled rt (.integer i) (jsonCall rt .convertNumber [int64 i])
  | number (n : Json.Number) :
      LiteralSpelled rt (.number n) (jsonCall rt .convertNumber [float64 n.toBinary64])
  | string (s : String) :
      LiteralSpelled rt (.string s)
        (jsonCall rt .wrapString [quoted s, mark ".", word "to_string", group .round []])

/-- The statement that puts a value into the object that is written. -/
def insertion (key : String) (expression : List Token) : List Token :=
  [word "__encoded", mark ".", word "insert",
    group .round
      ([quoted key, mark ".", word "to_string", group .round [], mark ","] ++ expression),
    mark ";"]

/-- The call that writes a value of a declared type. -/
def encoded (rt : RuntimePath) (access : List Token) : List Token :=
  inLibrary rt ["Encode", "encode"] ++ [group .round access]

/-- **How a statement that writes a key is spelled**: under `if let Some` exactly if it writes a
field that may be absent.  `access` reaches the value of a field. -/
inductive Insert.Spelled (rt : RuntimePath) (access : Identifier → List Token) :
    Insert → List Token → Prop
  | required (key : String) (name : Identifier) :
      Spelled rt access (.field key name true) (insertion key (encoded rt (access name)))
  | optional (key : String) (name : Identifier) :
      Spelled rt access (.field key name false)
        ([word "if", word "let", word "Some", group .round [word "value"], mark "="] ++
          access name ++ [group .brace (insertion key (encoded rt [word "value"]))])
  | fixed {key : String} {value : Literal} {ts : List Token} : LiteralSpelled rt value ts →
      Spelled rt access (.fixed key value) (insertion key ts)
  | supplied (key : String) (name : Identifier) :
      Spelled rt access (.supplied key name) (insertion key (encoded rt [ident name]))

/-- An empty object. -/
def emptyObject (rt : RuntimePath) : List Token :=
  inLibrary rt ["JsonObject", "new"] ++ [group .round []]

/-- **How the code that builds an object is spelled**: its statements, in order. -/
inductive ObjectSpelled (rt : RuntimePath) (access : Identifier → List Token) :
    List Insert → List Token → Prop
  | empty : ObjectSpelled rt access [] (emptyObject rt)
  | statements {inserts : List Insert} {ts : List Token} : inserts ≠ [] →
      Row (Insert.Spelled rt access) inserts ts →
      ObjectSpelled rt access inserts
        ([word "let", word "mut", word "__encoded", mark "="] ++ emptyObject rt ++
          [mark ";"] ++ ts ++ [word "__encoded"])

/-- The arm of a case without fields that is written as a value. -/
def valueArm (case : Identifier) (expression : List Token) : List Token :=
  [word "Self", mark "::", ident case, mark "=>"] ++ expression ++ [mark ","]

/-- The arm of a case that takes fields out and runs a block. -/
def blockArm (case : Identifier) (bindings block : List Token) : List Token :=
  [word "Self", mark "::", ident case, group .brace bindings, mark "=>", group .brace block]

/-- **How the code of a case that is written as an object is spelled**: the fields that it takes
out, and the object built of them. -/
inductive ObjectArm.Spelled (rt : RuntimePath) : ObjectArm → List Token → Prop
  | mk {name : Identifier} {bindings : List Identifier} {inserts : List Insert}
      {block : List Token} : ObjectSpelled rt (fun field => [ident field]) inserts block →
      Spelled rt ⟨name, bindings, inserts⟩
        (blockArm name (bindings.flatMap fun field => [ident field, mark ","]) block)

/-- The fixed code of statements and arms. -/
theorem code_statements :
    code "__encoded" = [word "__encoded"] ∧
    code "__encoded . insert" = [word "__encoded", mark ".", word "insert"] ∧
    code ". to_string" = [mark ".", word "to_string"] ∧
    code "Encode :: encode" = [word "Encode", mark "::", word "encode"] ∧
    code "JsonObject :: new" = [word "JsonObject", mark "::", word "new"] ∧
    code "let mut __encoded =" = [word "let", word "mut", word "__encoded", mark "="] ∧
    code "if let Some" = [word "if", word "let", word "Some"] ∧
    code "value" = [word "value"] ∧
    code "& self ." = [mark "&", word "self", mark "."] ∧
    code "=>" = [mark "=>"] := by
  and_intros <;> exact code_of_pieces (by decide +kernel)

theorem literalSpelled_tokens (rt : RuntimePath) (l : Literal) :
    LiteralSpelled rt l (literalTokens rt l) := by
  cases l with
  | bool b =>
    have h : LiteralSpelled rt (.bool b) _ := .bool b
    cases b <;> simpa [literalTokens, inRuntime, jsonCall, JsonFunction.name, round, code_literal]
      using h
  | integer i =>
    have h : LiteralSpelled rt (.integer i) _ := .integer i
    simpa [literalTokens, inRuntime, jsonCall, JsonFunction.name, round, code_literal] using h
  | number n =>
    have h : LiteralSpelled rt (.number n) _ := .number n
    simpa [literalTokens, inRuntime, jsonCall, JsonFunction.name, round, code_literal] using h
  | string s =>
    have h : LiteralSpelled rt (.string s) _ := .string s
    simpa [literalTokens, inRuntime, jsonCall, JsonFunction.name, round, code_literal] using h

theorem insertStatement_eq (key : String) (value : List Token) :
    insertStatement key value = insertion key value := by
  simp [insertStatement, insertion, round, code_statements, code_types, code_declarations]

theorem encodeCall_eq (access : List Token) : encodeCall rt access = encoded rt access := by
  simp [encodeCall, encoded, inRuntime, inLibrary, round, code_statements, code_types]

theorem Insert.spelled_tokens (i : Insert) (rt : RuntimePath) (access : Identifier → List Token) :
    i.Spelled rt access (i.tokens rt access) := by
  cases i with
  | field key name required =>
    cases required with
    | true =>
      rw [Insert.tokens, insertStatement_eq, encodeCall_eq]
      exact .required key name
    | false =>
      have h : Insert.Spelled rt access (.field key name false) _ := .optional key name
      simpa [Insert.tokens, insertStatement_eq, encodeCall_eq, round, braces, code_statements,
        code_declarations] using h
  | fixed key value =>
    rw [Insert.tokens, insertStatement_eq]
    exact .fixed (literalSpelled_tokens rt value)
  | supplied key name =>
    rw [Insert.tokens, insertStatement_eq, encodeCall_eq]
    exact .supplied key name

theorem newObject_eq : inRuntime rt "JsonObject :: new" ++ [round []] = emptyObject rt := by
  simp [inRuntime, emptyObject, inLibrary, round, code_statements, code_types]

theorem objectSpelled_body (rt : RuntimePath) (access : Identifier → List Token)
    (inserts : List Insert) :
    ObjectSpelled rt access inserts (objectBody rt access inserts) := by
  unfold objectBody
  rw [newObject_eq]
  cases inserts with
  | nil => exact .empty
  | cons first rest =>
    have h : ObjectSpelled rt access (first :: rest) _ :=
      .statements (List.cons_ne_nil first rest)
        (row_flatMap (fun i => i.spelled_tokens rt access) _)
    simpa [code_statements, code_declarations] using h

theorem ObjectArm.spelled_tokens (a : ObjectArm) (rt : RuntimePath) :
    a.Spelled rt (a.tokens rt) := by
  have h : a.Spelled rt _ := .mk (objectSpelled_body rt boundAccess a.inserts)
  simpa [ObjectArm.tokens, blockArm, braces, code_statements, code_declarations, code_types]
    using h

/-! ## §5 The code that writes values -/

/-- The implementation of a trait of the library by one method. -/
def implementation (rt : RuntimePath) (traitName : String) (name : Identifier)
    (method result : String) (body : List Token) : List Token :=
  [word "impl"] ++ inLibrary rt [traitName] ++ [word "for", ident name,
    group .brace ([word "fn", word method, group .round [mark "&", word "self"], mark "->"] ++
      inLibrary rt [result] ++ [group .brace body])]

/-- The implementation of the trait of all values that are written. -/
def encodeImplementation (rt : RuntimePath) (name : Identifier) (body : List Token) : List Token :=
  implementation rt "Encode" name "encode" "JsonValue" body

/-- The implementations for a type that is written as an object: its own trait, and the trait of all
values by it. -/
def objectImplementations (rt : RuntimePath) (name : Identifier) (body : List Token) :
    List Token :=
  implementation rt "EncodeObject" name "encode_object" "JsonObject" body ++
    encodeImplementation rt name (inLibrary rt ["JsonValue", "Object"] ++
      [group .round (inLibrary rt ["EncodeObject", "encode_object"] ++
        [group .round [word "self"]])])

/-- **How the code that writes values of a type is spelled**: one implementation of `Encode`, after
one of `EncodeObject` if the values are objects. -/
inductive EncodeImpl.Spelled (rt : RuntimePath) : EncodeImpl → List Token → Prop
  | record {name : Identifier} {inserts : List Insert} {body : List Token} :
      ObjectSpelled rt (fun field => [mark "&", word "self", mark ".", ident field]) inserts
        body →
      Spelled rt (.record name inserts) (objectImplementations rt name body)
  | enumeration {name : Identifier} {arms : List (Identifier × Literal)} {ts : List Token} :
      Row (fun arm ts => ∃ value, LiteralSpelled rt arm.2 value ∧ valueArm arm.1 value = ts) arms
        ts →
      Spelled rt (.enumeration name arms)
        (encodeImplementation rt name [word "match", mark "*", word "self", group .brace ts])
  | bare (name : Identifier) (cases : List Identifier) :
      Spelled rt (.bare name cases)
        (encodeImplementation rt name [word "match", word "self", group .brace
          (cases.flatMap fun case => [word "Self", mark "::", ident case,
            group .round [word "value"], mark "=>"] ++ encoded rt [word "value"] ++
            [mark ","])])
  | object {name : Identifier} {arms : List ObjectArm} {ts : List Token} :
      Row (ObjectArm.Spelled rt) arms ts →
      Spelled rt (.object name arms)
        (objectImplementations rt name [word "match", word "self", group .brace ts])

/-- The fixed code of implementations. -/
theorem code_implementations :
    code "Encode" = [word "Encode"] ∧
    code "encode" = [word "encode"] ∧
    code "EncodeObject" = [word "EncodeObject"] ∧
    code "encode_object" = [word "encode_object"] ∧
    code "EncodeObject :: encode_object" =
      [word "EncodeObject", mark "::", word "encode_object"] ∧
    code "JsonValue :: Object" = [word "JsonValue", mark "::", word "Object"] ∧
    code "for" = [word "for"] ∧
    code "fn" = [word "fn"] ∧
    code "& self" = [mark "&", word "self"] ∧
    code "->" = [mark "->"] ∧
    code "self" = [word "self"] ∧
    code "match self" = [word "match", word "self"] ∧
    code "match * self" = [word "match", mark "*", word "self"] := by
  and_intros <;> exact code_of_pieces (by decide +kernel)

theorem encodeTokens_eq (name : Identifier) (body : List Token) :
    encodeTokens rt name body = encodeImplementation rt name body := by
  simp [encodeTokens, implTokens, encodeImplementation, implementation, inRuntime, inLibrary, round,
    braces, code_implementations, code_declarations, code_types]

theorem objectTokens_eq (name : Identifier) (body : List Token) :
    objectTokens rt name body = objectImplementations rt name body := by
  rw [objectTokens, objectImplementations, encodeTokens_eq]
  simp [implTokens, implementation, inRuntime, inLibrary, round, braces, code_implementations,
    code_declarations, code_types]

/-- **The code that writes values of a type is spelled by its tokens.** -/
theorem EncodeImpl.spelled_tokens (i : EncodeImpl) (rt : RuntimePath) :
    i.Spelled rt (i.tokens rt) := by
  cases i with
  | record name inserts =>
    have hbody := objectSpelled_body rt selfAccess inserts
    have haccess : selfAccess = fun field => [mark "&", word "self", mark ".", ident field] := by
      funext field
      simp [selfAccess, code_statements]
    rw [EncodeImpl.tokens, objectTokens_eq]
    rw [haccess] at hbody ⊢
    exact .record hbody
  | enumeration name arms =>
    have harms : Row (fun (arm : Identifier × Literal) ts =>
        ∃ value, LiteralSpelled rt arm.2 value ∧ valueArm arm.1 value = ts) arms _ :=
      row_flatMap (fun arm => ⟨_, literalSpelled_tokens rt arm.2, rfl⟩) arms
    have h : EncodeImpl.Spelled rt (.enumeration name arms) _ := .enumeration harms
    simpa [EncodeImpl.tokens, encodeTokens_eq, valueArm, braces, code_implementations,
      code_statements, code_declarations, code_types] using h
  | bare name cases =>
    have h : EncodeImpl.Spelled rt (.bare name cases) _ := .bare name cases
    simpa [EncodeImpl.tokens, encodeTokens_eq, encodeCall_eq, round, braces, code_implementations,
      code_statements, code_declarations, code_types] using h
  | object name arms =>
    have h : EncodeImpl.Spelled rt (.object name arms) _ :=
      .object (row_flatMap (fun a => a.spelled_tokens rt) arms)
    simpa [EncodeImpl.tokens, objectTokens_eq, braces, code_implementations] using h

/-! ## §6 Methods -/

/-- **How the parameter for a payload is spelled**: a typed payload is taken by reference. -/
inductive Argument.Spelled (rt : RuntimePath) (part : CallPart) : Argument → List Token → Prop
  | none : Spelled rt part .none []
  | untyped :
      Spelled rt part .untyped ([word part.argumentName, mark ":"] ++ inLibrary rt ["JsonObject"])
  | typed {type : TypeExpr} {ts : List Token} : type.Spelled rt ts →
      Spelled rt part (.typed type) ([word part.argumentName, mark ":", mark "&"] ++ ts)

/-- **The payload as an object**: a typed payload is written by the trait of its type. -/
def Argument.object (rt : RuntimePath) (part : CallPart) : Argument → List Token
  | .none => emptyObject rt
  | .untyped => [word part.argumentName]
  | .typed _ =>
    inLibrary rt ["EncodeObject", "encode_object"] ++ [group .round [word part.argumentName]]

/-- The options of a call. -/
def callOptions (rt : RuntimePath) : List Token :=
  inLibrary rt ["CallOptions", "new"] ++
    [group .round [mark "&", word "self", mark ".", word "context"]]

/-- **What a method passes on**: the payload of its call, and the options.  Context traits travel
with the options, and the payload of their call is empty. -/
inductive Method.Passes (rt : RuntimePath) (m : Method) : List Token → List Token → Prop
  | contextTraits : m.part = .contextTraits → m.argument ≠ .none →
      Passes rt m (emptyObject rt) (callOptions rt ++ [mark ".", word "with_context_traits",
        group .round (m.argument.object rt m.part)])
  | payload : m.part ≠ .contextTraits ∨ m.argument = .none →
      Passes rt m (m.argument.object rt m.part) (callOptions rt)

/-- **How a method is spelled**: its name, the payload as its last parameter, and one call of the
client.  The other parameters, and what the client is called with before the payload, are left open;
for a track call the latter is the name of the event. -/
inductive Method.Spelled (rt : RuntimePath) (m : Method) : List Token → Prop
  | mk {attributes leading parameter target payload options : List Token} :
      Attributes attributes → m.argument.Spelled rt m.part parameter →
      (m.call = .track → target = [quoted m.event]) → m.Passes rt payload options →
      Spelled rt m (attributes ++ [word "pub", word "fn", ident m.name,
        group .round ([mark "&", word "self", mark ","] ++ leading ++ parameter),
        group .brace ([word "let", word "options", mark "="] ++ options ++
          [mark ";", word "self", mark ".", word "client", mark ".", word m.call.text,
            group .round (target ++ [mark ","] ++ payload ++
              [mark ",", mark "&", word "options"]), mark ";"])])

/-- The fixed code of methods. -/
theorem code_methods :
    code "properties" = [word "properties"] ∧
    code "traits" = [word "traits"] ∧
    code ": &" = [mark ":", mark "&"] ∧
    code "CallOptions :: new" = [word "CallOptions", mark "::", word "new"] ∧
    code "& self . context" = [mark "&", word "self", mark ".", word "context"] ∧
    code ". with_context_traits" = [mark ".", word "with_context_traits"] ∧
    code "pub fn" = [word "pub", word "fn"] ∧
    code "& self ," = [mark "&", word "self", mark ","] ∧
    code "let options =" = [word "let", word "options", mark "="] ∧
    code "; self . client ." = [mark ";", word "self", mark ".", word "client", mark "."] ∧
    code "track" = [word "track"] ∧
    code "identify" = [word "identify"] ∧
    code "group" = [word "group"] ∧
    code "screen" = [word "screen"] ∧
    code "page" = [word "page"] ∧
    code ", & options" = [mark ",", mark "&", word "options"] := by
  and_intros <;> exact code_of_pieces (by decide +kernel)

theorem code_argumentName (part : CallPart) :
    code part.argumentName = [word part.argumentName] := by
  cases part <;> simp only [CallPart.argumentName, code_methods]

theorem code_callText (call : CallKind) : code call.text = [word call.text] := by
  cases call <;> simp only [CallKind.text, code_methods]

theorem Argument.spelled_tokens (argument : Argument) (rt : RuntimePath) (part : CallPart) :
    argument.Spelled rt part (argumentTokens rt part argument) := by
  cases argument with
  | none => exact .none
  | untyped =>
    have h : Argument.Spelled rt part .untyped _ := .untyped
    simpa [argumentTokens, inRuntime, inLibrary, code_argumentName, code_types] using h
  | typed type =>
    have h : Argument.Spelled rt part (.typed type) _ := .typed (type.spelled_tokens rt)
    simpa [argumentTokens, code_argumentName, code_methods] using h

/-- The payload as an object, if the method has an argument for it. -/
theorem payloadTokens?_eq (rt : RuntimePath) (part : CallPart) (argument : Argument) :
    payloadTokens? rt part argument =
      if argument = .none then none else some (argument.object rt part) := by
  cases argument with
  | none => rfl
  | untyped => simp [payloadTokens?, Argument.object, code_argumentName]
  | typed type =>
    simp [payloadTokens?, Argument.object, inRuntime, inLibrary, round, code_argumentName,
      code_implementations, code_types]

theorem callOptions_eq :
    inRuntime rt "CallOptions :: new" ++ [round (code "& self . context")] = callOptions rt := by
  simp [inRuntime, callOptions, inLibrary, round, code_methods, code_types]

theorem targetTokens_track {call : CallKind} (h : call = .track) (event : String) :
    targetTokens call event = [quoted event] := by
  rw [h]
  rfl

/-- **A method is spelled by its tokens.** -/
theorem Method.spelled_tokens (m : Method) (rt : RuntimePath) : m.Spelled rt (m.tokens rt) := by
  have hspelled : ∀ {payload options : List Token}, m.Passes rt payload options → m.Spelled rt _ :=
    @fun payload options hpasses => @Method.Spelled.mk rt m _ (leadingTokens m.call) _
      (targetTokens m.call m.event) payload options (attributes_docTokens m.docs)
      (m.argument.spelled_tokens rt m.part) (fun h => targetTokens_track h m.event) hpasses
  unfold Method.tokens
  rw [newObject_eq, callOptions_eq, payloadTokens?_eq]
  split
  · rename_i encoded hpart hencoded
    obtain ⟨hargument, rfl⟩ : m.argument ≠ .none ∧ m.argument.object rt m.part = encoded := by
      simpa using hencoded
    have h := hspelled (.contextTraits hpart hargument)
    simpa [round, braces, code_callText, code_methods, code_types, code_declarations] using h
  · rename_i hpart
    have hplain : m.part ≠ .contextTraits ∨ m.argument = .none := by
      by_contra hboth
      obtain ⟨hcontext, hargument⟩ := not_or.mp hboth
      exact hpart (m.argument.object rt m.part) (not_not.mp hcontext) (if_neg hargument)
    have hpayload :
        (if m.argument = .none then none else some (m.argument.object rt m.part)).getD
          (emptyObject rt) = m.argument.object rt m.part := by
      cases m.argument <;> rfl
    have h := hspelled (.payload hplain)
    dsimp only
    rw [hpayload]
    simpa [round, braces, code_callText, code_methods, code_types, code_declarations] using h

/-! ## §7 The wrapper, and items -/

/-- How a constant of this name is spelled. -/
inductive ConstantSpelled (name : String) : List Token → Prop
  | text {attributes : List Token} (value : String) : Attributes attributes →
      ConstantSpelled name (attributes ++ [word "pub", word "const", word name, mark ":",
        mark "&", mark "'static", word "str", mark "=", quoted value, mark ";"])
  | number {attributes : List Token} (value : Int64) : Attributes attributes →
      ConstantSpelled name (attributes ++ [word "pub", word "const", word name, mark ":",
        word "i64", mark "=", int64 value, mark ";"])

/-- What a function of the wrapper itself may give: the wrapper, the client, or the context. -/
inductive ResultSpelled (rt : RuntimePath) : List Token → Prop
  | wrapper : ResultSpelled rt [word "Self"]
  | client : ResultSpelled rt [word "C"]
  | clientReference : ResultSpelled rt [mark "&", word "C"]
  | context : ResultSpelled rt ([mark "&"] ++ inLibrary rt ["JsonObject"])

/-- **How a function of this name is spelled**: of the wrapper itself, with a result; or the method
of a rule, under an identifier. -/
inductive FunctionSpelled (rt : RuntimePath) (name : String) : List Token → Prop
  | own {attributes parameters result body : List Token} : Attributes attributes →
      ResultSpelled rt result →
      FunctionSpelled rt name (attributes ++ [word "pub", word "fn", word name,
        group .round parameters, mark "->"] ++ result ++ [group .brace body])
  | method {attributes parameters body : List Token} {i : Identifier} : Attributes attributes →
      i.name = name →
      FunctionSpelled rt name (attributes ++ [word "pub", word "fn", ident i,
        group .round parameters, group .brace body])

/-- The parameter of the wrapper: the type of the client. -/
def clientParameter (rt : RuntimePath) : List Token :=
  [mark "<", word "C", mark ":"] ++ inLibrary rt ["AnalyticsClient"] ++ [mark ">"]

/-- The names of the constants of the wrapper. -/
def constantNames : List String :=
  ["PLATFORM", "GENERATOR_VERSION", "TRACKING_PLAN_ID", "TRACKING_PLAN_VERSION"]

/-- **How the wrapper is spelled**: its type, and an implementation with its constants, its own
functions and the methods. -/
inductive Wrapper.Spelled (rt : RuntimePath) (w : Wrapper) : List Token → Prop
  | mk {attributes fields constants own methods : List Token} : Attributes attributes →
      Row ConstantSpelled constantNames constants →
      Row (FunctionSpelled rt) Emit.builtinMethods own → Row (Method.Spelled rt) w.methods methods →
      Spelled rt w (attributes ++ [word "pub", word "struct", ident w.name] ++
        clientParameter rt ++ [group .brace fields, word "impl"] ++ clientParameter rt ++
        [ident w.name, mark "<", word "C", mark ">"] ++
        [group .brace (constants ++ (own ++ methods))])

/-- The fixed code of the wrapper. -/
theorem code_wrapper :
    code "AnalyticsClient" = [word "AnalyticsClient"] ∧
    code "< C :" = [mark "<", word "C", mark ":"] ∧
    code "impl < C :" = [word "impl", mark "<", word "C", mark ":"] ∧
    code "< C >" = [mark "<", word "C", mark ">"] ∧
    code "pub const" = [word "pub", word "const"] ∧
    code "PLATFORM" = [word "PLATFORM"] ∧
    code "GENERATOR_VERSION" = [word "GENERATOR_VERSION"] ∧
    code "TRACKING_PLAN_ID" = [word "TRACKING_PLAN_ID"] ∧
    code ": & 'static str =" = [mark ":", mark "&", mark "'static", word "str", mark "="] ∧
    code "pub const TRACKING_PLAN_VERSION : i64 =" = [word "pub", word "const",
      word "TRACKING_PLAN_VERSION", mark ":", word "i64", mark "="] ∧
    code "new" = [word "new"] ∧
    code "client" = [word "client"] ∧
    code "context" = [word "context"] ∧
    code "into_inner" = [word "into_inner"] ∧
    code "C" = [word "C"] ∧
    code "& C" = [mark "&", word "C"] := by
  and_intros <;> exact code_of_pieces (by decide +kernel)

theorem constantSpelled_textConst {name : String} (h : code name = [word name])
    (doc value : String) : ConstantSpelled name (textConst doc name value) := by
  have hconstant : ConstantSpelled name _ := .text value (attributes_fixedDoc doc)
  simpa [textConst, h, code_wrapper, code_declarations] using hconstant

/-- The constants of the wrapper, in order. -/
theorem row_constantTokens (w : Wrapper) :
    Row ConstantSpelled constantNames (constantTokens w) := by
  obtain ⟨-, -, -, -, -, hplatform, hgenerator, hplan, -⟩ := code_wrapper
  have hversion : ConstantSpelled "TRACKING_PLAN_VERSION" _ :=
    .number w.metadata.planVersion (attributes_fixedDoc " Tracking plan version.")
  have htexts := ((Row.singleton (constantSpelled_textConst hplatform
      " Platform reported in the context block." w.platform)).append
    (.singleton (constantSpelled_textConst hgenerator
      " Version of the generator that produced this file." w.generatorVersion))).append
    (.singleton (constantSpelled_textConst hplan " Tracking plan identifier." w.metadata.planId))
  have h : Row ConstantSpelled constantNames _ := htexts.append (.singleton hversion)
  simpa [constantTokens, code_wrapper, code_declarations] using h

theorem functionSpelled_ownFunction {name : String} (h : code name = [word name]) (doc : String)
    {result : List Token} (hresult : ResultSpelled rt result) (parameters body : List Token) :
    FunctionSpelled rt name (ownFunction doc name parameters result body) := by
  have hfunction : FunctionSpelled rt name _ :=
    @FunctionSpelled.own rt name _ parameters _ body (attributes_fixedDoc doc) hresult
  simpa [ownFunction, h, round, braces, code_methods, code_implementations] using hfunction

/-- The functions of the wrapper itself, in order. -/
theorem row_ownFunctionTokens :
    Row (FunctionSpelled rt) Emit.builtinMethods (ownFunctionTokens rt) := by
  obtain ⟨-, -, -, -, -, -, -, -, -, -, hnew, hclient, hcontext, hinner, -⟩ := code_wrapper
  have hwrapper : ResultSpelled rt (code "Self") := by
    simp only [code_declarations]
    exact .wrapper
  have hreference : ResultSpelled rt (code "& C") := by
    simp only [code_wrapper]
    exact .clientReference
  have hobject : ResultSpelled rt (code "&" ++ inRuntime rt "JsonObject") := by
    simpa [inRuntime, inLibrary, code_declarations, code_types] using ResultSpelled.context
  have hown : ResultSpelled rt (code "C") := by
    simp only [code_wrapper]
    exact .client
  exact (((Row.singleton (functionSpelled_ownFunction hnew _ hwrapper _ _)).append
    (.singleton (functionSpelled_ownFunction hclient _ hreference _ _))).append
    (.singleton (functionSpelled_ownFunction hcontext _ hobject _ _))).append
    (.singleton (functionSpelled_ownFunction hinner _ hown _ _))

/-- **The wrapper is spelled by its tokens.** -/
theorem Wrapper.spelled_tokens (w : Wrapper) (rt : RuntimePath) : w.Spelled rt (w.tokens rt) := by
  have hattributes : Attributes (docTokens [" Typed analytics calls for the " ++
      ticked w.planName ++ " tracking plan."] ++ deriveTokens "Debug") :=
    (attributes_docTokens _).append (.cons .nil)
  have h : w.Spelled rt _ := @Wrapper.Spelled.mk rt w _
    (code "client : C , context :" ++ inRuntime rt "JsonObject" ++ code ",") _ _ _ hattributes
    (row_constantTokens w) row_ownFunctionTokens
    (row_flatMap (fun m => m.spelled_tokens rt) w.methods)
  simpa [Wrapper.tokens, clientParameter, inRuntime, inLibrary, braces, code_wrapper,
    code_declarations, code_types] using h

/-- **The functions of a wrapper**, by their names: they follow the constants in its
implementation. -/
def HasFunctions (rt : RuntimePath) (ts : List Token) (names : List String) : Prop :=
  ∃ front constants functions, ts = front ++ [group .brace (constants ++ functions)] ∧
    Row ConstantSpelled constantNames constants ∧ Row (FunctionSpelled rt) names functions

theorem Method.Spelled.function {m : Method} {ts : List Token} (h : m.Spelled rt ts) :
    FunctionSpelled rt m.name.name ts := by
  cases h with
  | mk hattributes _ _ _ => exact .method hattributes rfl

/-- **The functions of a wrapper are its own and then the methods**, in order. -/
theorem Wrapper.Spelled.hasFunctions {w : Wrapper} {ts : List Token} (h : w.Spelled rt ts) :
    HasFunctions rt ts (Emit.builtinMethods ++ w.methods.map (·.name.name)) := by
  cases h with
  | mk _ hconstants hown hmethods =>
    have hfunctions := hown.append (hmethods.map fun hm => hm.function)
    exact ⟨_, _, _, rfl, hconstants, hfunctions⟩

/-- **How an item is spelled.** -/
inductive Item.Spelled (rt : RuntimePath) : Item → List Token → Prop
  | declaration {d : Declaration} {ts : List Token} : d.Spelled rt ts →
      Spelled rt (.declaration d) ts
  | encodeImpl {i : EncodeImpl} {ts : List Token} : i.Spelled rt ts →
      Spelled rt (.encodeImpl i) ts
  | wrapper {w : Wrapper} {ts : List Token} : w.Spelled rt ts → Spelled rt (.wrapper w) ts

theorem Item.spelled_tokens (i : Item) (rt : RuntimePath) : i.Spelled rt (i.tokens rt) := by
  cases i with
  | declaration d => exact .declaration (d.spelled_tokens rt)
  | encodeImpl i => exact .encodeImpl (i.spelled_tokens rt)
  | wrapper w => exact .wrapper (w.spelled_tokens rt)

end TrackingPlan.Bindings
