import TrackingPlan.Bindings.File

/-!
# The identifiers of items

An item is spelled out with identifiers of three sorts: its own name, the names of its members,
which are fields, cases and methods, and the types that it uses (`Item.mem_identifiers`).  Code that
writes values names the type that it is for and members only.

§1 types that are used · §2 all identifiers · §3 members.
-/

namespace TrackingPlan.Bindings

/-! ## §1 Types that are used -/

/-- The named types in a type of the emitted code. -/
def TypeExpr.names : TypeExpr → List Identifier
  | .scalar _ => []
  | .untyped _ => []
  | .list item => item.names
  | .named name => [name]

/-- The named types that a case is declared with. -/
def CaseDecl.uses : CaseDecl → List Identifier
  | .wrapped _ _ type => type.names
  | .fields _ _ declared => declared.flatMap (·.type.names)

/-- The named types that a declaration stands for or holds. -/
def Declaration.uses : Declaration → List Identifier
  | .typeAlias _ _ target => target.names
  | .record _ _ fields => fields.flatMap (·.type.names)
  | .enumeration _ _ _ => []
  | .variant _ _ cases => cases.flatMap CaseDecl.uses

/-- The named types that a method takes. -/
def Method.uses (m : Method) : List Identifier :=
  match m.argument with
  | .typed type => type.names
  | .none => []
  | .untyped => []

/-- **The named types that emitted code uses**, in declarations and in the methods of the
wrapper. -/
def Emitted.uses (e : Emitted) : List Identifier :=
  e.declarations.flatMap Declaration.uses ++ e.wrapper.methods.flatMap Method.uses

/-- The named types that an item uses. -/
def Item.uses : Item → List Identifier
  | .declaration d => d.uses
  | .encodeImpl _ => []
  | .wrapper w => w.methods.flatMap Method.uses

/-! ## §2 All identifiers -/

/-- The identifiers that a field is spelled out with. -/
def FieldDecl.identifiers (f : FieldDecl) : List Identifier :=
  f.name :: f.type.names

/-- The identifiers of a case. -/
def CaseDecl.identifiers : CaseDecl → List Identifier
  | .wrapped _ name type => name :: type.names
  | .fields _ name declared => name :: declared.flatMap FieldDecl.identifiers

/-- The identifiers of a declaration. -/
def Declaration.identifiers : Declaration → List Identifier
  | .typeAlias _ name target => name :: target.names
  | .record _ name fields => name :: fields.flatMap FieldDecl.identifiers
  | .enumeration _ name cases => name :: cases.map (·.name)
  | .variant _ name cases => name :: cases.flatMap CaseDecl.identifiers

/-- The identifiers of a statement that writes a key. -/
def Insert.identifiers : Insert → List Identifier
  | .field _ name _ => [name]
  | .fixed _ _ => []
  | .supplied _ name => [name]

/-- The identifiers of the code of a case. -/
def ObjectArm.identifiers (a : ObjectArm) : List Identifier :=
  a.name :: a.bindings ++ a.inserts.flatMap Insert.identifiers

/-- The identifiers of the code that writes values. -/
def EncodeImpl.identifiers : EncodeImpl → List Identifier
  | .record name inserts => name :: inserts.flatMap Insert.identifiers
  | .enumeration name arms => name :: arms.map (·.1)
  | .bare name cases => name :: cases
  | .object name arms => name :: arms.flatMap ObjectArm.identifiers

/-- The identifiers of the wrapper. -/
def Wrapper.identifiers (w : Wrapper) : List Identifier :=
  w.name :: w.methods.flatMap fun m => m.name :: m.uses

/-- **The identifiers that an item is spelled out with.** -/
def Item.identifiers : Item → List Identifier
  | .declaration d => d.identifiers
  | .encodeImpl i => i.identifiers
  | .wrapper w => w.identifiers

/-! ## §3 Members -/

/-- The names that a case has of its own: its name, and those of its fields. -/
def CaseDecl.members : CaseDecl → List Identifier
  | .wrapped _ name _ => [name]
  | .fields _ name declared => name :: declared.map FieldDecl.name

/-- The fields and the cases of a declaration. -/
def Declaration.members : Declaration → List Identifier
  | .typeAlias _ _ _ => []
  | .record _ _ fields => fields.map FieldDecl.name
  | .enumeration _ _ cases => cases.map EnumCaseDecl.name
  | .variant _ _ cases => cases.flatMap CaseDecl.members

/-- The fields and the cases that the code for a type names. -/
def EncodeImpl.members : EncodeImpl → List Identifier
  | .record _ inserts => inserts.flatMap Insert.identifiers
  | .enumeration _ arms => arms.map (·.1)
  | .bare _ cases => cases
  | .object _ arms => arms.flatMap ObjectArm.identifiers

/-- **The members that an item names.** -/
def Item.members : Item → List Identifier
  | .declaration d => d.members
  | .encodeImpl i => i.members
  | .wrapper w => w.methods.map Method.name

/-- The name of an item: what it declares, or what it is the code of. -/
def Item.name : Item → Identifier
  | .declaration d => d.name
  | .encodeImpl i => i.name
  | .wrapper w => w.name

variable {name : Identifier}

theorem FieldDecl.mem_identifiers {fields : List FieldDecl}
    (h : name ∈ fields.flatMap FieldDecl.identifiers) :
    name ∈ fields.map FieldDecl.name ∨ name ∈ fields.flatMap (·.type.names) := by
  obtain ⟨f, hf, hname⟩ := List.mem_flatMap.mp h
  rcases List.mem_cons.mp hname with rfl | hname
  · exact .inl (List.mem_map.mpr ⟨f, hf, rfl⟩)
  · exact .inr (List.mem_flatMap.mpr ⟨f, hf, hname⟩)

theorem CaseDecl.mem_identifiers {c : CaseDecl} (h : name ∈ c.identifiers) :
    name ∈ c.members ∨ name ∈ c.uses := by
  cases c with
  | wrapped docs case type =>
    rcases List.mem_cons.mp h with rfl | h
    · exact .inl List.mem_cons_self
    · exact .inr h
  | fields docs case declared =>
    rcases List.mem_cons.mp h with rfl | h
    · exact .inl List.mem_cons_self
    · exact (FieldDecl.mem_identifiers h).imp_left (List.mem_cons_of_mem case)

theorem Declaration.mem_identifiers {d : Declaration} (h : name ∈ d.identifiers) :
    name = d.name ∨ name ∈ d.members ∨ name ∈ d.uses := by
  cases d with
  | typeAlias docs own target => exact (List.mem_cons.mp h).imp_right .inr
  | record docs own fields => exact (List.mem_cons.mp h).imp_right FieldDecl.mem_identifiers
  | enumeration docs own cases => exact (List.mem_cons.mp h).imp_right .inl
  | variant docs own cases =>
    refine (List.mem_cons.mp h).imp_right fun h => ?_
    obtain ⟨c, hc, hname⟩ := List.mem_flatMap.mp h
    exact (CaseDecl.mem_identifiers hname).imp
      (fun hmember => List.mem_flatMap.mpr ⟨c, hc, hmember⟩)
      (fun huse => List.mem_flatMap.mpr ⟨c, hc, huse⟩)

/-- **An identifier of an item** is its own name, that of a member, or a type that it uses. -/
theorem Item.mem_identifiers {i : Item} (h : name ∈ i.identifiers) :
    name = i.name ∨ name ∈ i.members ∨ name ∈ i.uses := by
  cases i with
  | declaration d => exact Declaration.mem_identifiers h
  | encodeImpl c => cases c <;> exact (List.mem_cons.mp h).imp_right .inl
  | wrapper w =>
    refine (List.mem_cons.mp h).imp_right fun h => ?_
    obtain ⟨m, hm, hname⟩ := List.mem_flatMap.mp h
    rcases List.mem_cons.mp hname with rfl | huse
    · exact .inl (List.mem_map.mpr ⟨m, hm, rfl⟩)
    · exact .inr (List.mem_flatMap.mpr ⟨m, hm, huse⟩)

end TrackingPlan.Bindings
