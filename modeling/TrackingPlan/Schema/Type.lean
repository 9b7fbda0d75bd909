import TrackingPlan.Schema.Error
import TrackingPlan.Schema.Literal
import TrackingPlan.Schema.TypeName

/-!
# The types of a model

A property value is a scalar, a value of a closed enumeration, a list, a record, one case of a
variant, or an untyped value; an alias is a documented name for another type and has no form of its
own.  A variant with a discriminator chooses among object shapes by the value at one key; a variant
without one chooses among the kinds of bare values.

§1 enumerations · §2 tags · §3 the types · §4 names and descriptions · §5 equality.
-/

namespace TrackingPlan

/-! ## §1 Enumerations -/

/-- One case of an enumeration: its name, and the value written for it. -/
structure EnumCase where
  name : String
  value : Literal
deriving DecidableEq

/-- **A closed enumeration**: cases in declaration order. -/
structure EnumType where
  name : TypeName
  description : Option String
  cases : List EnumCase
deriving DecidableEq

/-! ## §2 Tags -/

/-- **How a case is selected**: by a literal at the discriminator, by the kind of a bare value, or
when no literal matches. -/
inductive CaseTag where
  | literal (value : Literal)
  | kind (kind : ValueKind)
  | fallback
deriving DecidableEq

/-! ## §3 The types -/

mutual
/-- **A field** of a record or of a case. -/
structure Field where
  key : String
  type : PropertyType
  required : Bool
  description : Option String

/-- **A record**: fields in declaration order. -/
structure RecordType where
  name : TypeName
  description : Option String
  fields : List Field

/-- **A discriminator**: the key that holds the tag, and its declared type. -/
structure Discriminator where
  key : String
  type : PropertyType
  description : Option String

/-- **A case** of a variant, with its own fields in declaration order. -/
structure VariantCase where
  name : String
  tag : CaseTag
  description : Option String
  fields : List Field

/-- **A variant**: tagged cases in declaration order, and the case for all other values. -/
structure VariantType where
  name : TypeName
  description : Option String
  discriminator : Option Discriminator
  cases : List VariantCase
  defaultCase : Option VariantCase

/-- **An alias**: a documented name for another type. -/
structure AliasType where
  name : TypeName
  description : Option String
  target : PropertyType

/-- **The type of a property value.** -/
inductive PropertyType where
  | scalar (kind : ScalarKind)
  | enumeration (e : EnumType)
  | array (item : PropertyType)
  | record (r : RecordType)
  | variant (v : VariantType)
  | aliasType (a : AliasType)
  | untyped (kind : UntypedKind)
end

/-! ## §4 Names and descriptions -/

namespace VariantCase

/-- Whether the case is the one for values that no tag matches. -/
def isDefault (c : VariantCase) : Bool :=
  c.tag == .fallback

/-- The literal that selects the case. -/
def literal? (c : VariantCase) : Option Literal :=
  match c.tag with
  | .literal l => some l
  | _ => none

/-- The kind of bare values that selects the case. -/
def valueKind? (c : VariantCase) : Option ValueKind :=
  match c.tag with
  | .kind k => some k
  | _ => none

/-- The scalar kind that selects the case. -/
def scalarKind? (c : VariantCase) : Option ScalarKind :=
  match c.tag with
  | .kind (.scalar k) => some k
  | _ => none

end VariantCase

namespace VariantType

/-- Whether the variant chooses among kinds of bare values. -/
def isPrimitive (v : VariantType) : Bool :=
  v.discriminator.isNone

/-- All cases in declaration order, the default case last. -/
def allCases (v : VariantType) : List VariantCase :=
  v.cases ++ v.defaultCase.toList

/-- The first case with this name. -/
def caseNamed? (v : VariantType) (name : String) : Option VariantCase :=
  v.allCases.find? (·.name == name)

end VariantType

namespace PropertyType

/-- The type behind all aliases. -/
def resolved : PropertyType → PropertyType
  | .aliasType ⟨_, _, target⟩ => target.resolved
  | t => t
termination_by structural t => t

/-- The name of the type, if it has one. -/
def name? : PropertyType → Option TypeName
  | .enumeration e => some e.name
  | .record r => some r.name
  | .variant v => some v.name
  | .aliasType a => some a.name
  | .scalar _ | .array _ | .untyped _ => none

/-- The type in a few words, for messages. -/
def describe : PropertyType → String
  | .scalar kind => kind.text
  | .enumeration e => "enum " ++ ticked e.name.name
  | .array item => "array of " ++ item.describe
  | .record r => "object " ++ ticked r.name.name
  | .variant v => "variant " ++ ticked v.name.name
  | .aliasType ⟨_, _, target⟩ => target.describe
  | .untyped kind => kind.text
termination_by structural t => t

/-- Whether values of the type are written as JSON objects. -/
def isObject (t : PropertyType) : Bool :=
  match t.resolved with
  | .record _ => true
  | .untyped .object => true
  | .variant v => !v.isPrimitive
  | _ => false

end PropertyType

/-! ## §5 Equality -/

mutual
/-- Whether two types are equal throughout, descriptions included. -/
def PropertyType.same : PropertyType → PropertyType → Bool
  | .scalar j, .scalar k => j == k
  | .enumeration d, .enumeration e => d == e
  | .array t, .array u => t.same u
  | .record ⟨n, d, fs⟩, .record ⟨m, e, gs⟩ => n == m && d == e && sameFields fs gs
  | .variant ⟨n, d, disc, cs, dflt⟩, .variant ⟨m, e, disc', cs', dflt'⟩ =>
    n == m && d == e && sameDiscriminator disc disc' && sameCases cs cs' && sameDefault dflt dflt'
  | .aliasType ⟨n, d, t⟩, .aliasType ⟨m, e, u⟩ => n == m && d == e && t.same u
  | .untyped j, .untyped k => j == k
  | _, _ => false
termination_by structural t => t

/-- Whether two lists of fields are equal. -/
def sameFields : List Field → List Field → Bool
  | [], [] => true
  | ⟨k, t, r, d⟩ :: fs, ⟨l, u, s, e⟩ :: gs =>
    k == l && t.same u && r == s && d == e && sameFields fs gs
  | _, _ => false
termination_by structural fs => fs

/-- Whether two discriminators are equal, or both absent. -/
def sameDiscriminator : Option Discriminator → Option Discriminator → Bool
  | none, none => true
  | some ⟨k, t, d⟩, some ⟨l, u, e⟩ => k == l && t.same u && d == e
  | _, _ => false
termination_by structural d => d

/-- Whether two lists of cases are equal. -/
def sameCases : List VariantCase → List VariantCase → Bool
  | [], [] => true
  | ⟨n, t, d, fs⟩ :: cs, ⟨m, u, e, gs⟩ :: ds =>
    n == m && t == u && d == e && sameFields fs gs && sameCases cs ds
  | _, _ => false
termination_by structural cs => cs

/-- Whether two default cases are equal, or both absent. -/
def sameDefault : Option VariantCase → Option VariantCase → Bool
  | none, none => true
  | some ⟨n, t, d, fs⟩, some ⟨m, u, e, gs⟩ => n == m && t == u && d == e && sameFields fs gs
  | _, _ => false
termination_by structural c => c
end

end TrackingPlan
