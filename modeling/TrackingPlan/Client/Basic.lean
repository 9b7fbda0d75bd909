import TrackingPlan.Json.Basic
import TrackingPlan.Schema.Rule

/-!
# Calls to an analytics client

A call has a target (the event, the user, the group, the page or the screen), a payload, and a
context that says which plan it follows.  Traits of the context travel with the call and are merged
into its context only when it is sent.

§1 the context · §2 calls · §3 clients without pages.
-/

namespace TrackingPlan.Client

/-! ## §1 The context -/

/-- **What a call says about where it comes from.** -/
structure EventContext where
  platform : String
  generatorVersion : String
  planId : String
  planVersion : Int64
deriving DecidableEq

/-- The key in a context under which it says where the call comes from. -/
def contextKey : String :=
  "typer"

/-- The key in a context under which its traits are. -/
def traitsKey : String :=
  "traits"

/-- **The context of every call.** -/
def EventContext.toContext (c : EventContext) : Json.Object :=
  [(contextKey, .object [
    ("platform", .string c.platform),
    ("generatorVersion", .string c.generatorVersion),
    ("trackingPlanId", .string c.planId),
    ("trackingPlanVersion", Json.ofInt64 c.planVersion)])]

/-! ## §2 Calls -/

/-- What goes along with a call: the context, and traits of it if there are any. -/
structure CallOptions where
  context : Json.Object
  contextTraits : Option Json.Object

/-- **The context as it is sent**: with its traits, if there are any. -/
def CallOptions.mergedContext (o : CallOptions) : Json.Object :=
  match o.contextTraits with
  | none => o.context
  | some traits => o.context.insert traitsKey (.object traits)

/-- **A call.**  Only pages and screens have a category. -/
structure Call where
  kind : CallKind
  target : String
  category : String
  payload : Json.Object
  options : CallOptions

/-- The category, of a page or a screen. -/
def Call.category? (c : Call) : Option String :=
  match c.kind with
  | .page | .screen => some c.category
  | _ => none

/-! ## §3 Clients without pages -/

/-- **The call as a client without pages gets it**: a page as a screen. -/
def Call.withoutPages (c : Call) : Call :=
  match c.kind with
  | .page => { c with kind := .screen }
  | _ => c

end TrackingPlan.Client
