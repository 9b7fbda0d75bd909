import TrackingPlan.Bindings.Emit

/-!
# The wrapper — one method for every valid rule

The wrapper's own methods are named first, so that no event takes their names.  A rule whose part
its call does not have gets no method.
-/

namespace TrackingPlan.Bindings

namespace Emit

/-- The methods that every wrapper has. -/
def builtinMethods : List String :=
  ["new", "client", "context", "into_inner"]

/-- Registers the names of the wrapper's own methods. -/
def reserveBuiltins : List String → Emit Unit
  | [] => return ()
  | name :: rest => do
    let _ ← methodIdentifier ("builtin:" ++ name) name
    reserveBuiltins rest

/-- The name that the method of a rule asks for. -/
def methodName (r : Rule) : String :=
  let base :=
    match r.event.kind with
    | .track => "track " ++ r.event.name
    | kind => kind.text
  match r.part with
  | .contextTraits => base ++ " context traits"
  | _ => base

/-- The id of the method of a rule. -/
def methodId (r : Rule) : String :=
  r.event.kind.text ++ ":" ++ r.event.name ++ ":" ++ r.part.text

/-- The argument that passes a payload. -/
def argument : Payload → Emit Argument
  | .empty => return .none
  | .untyped => return .untyped
  | .typed type => return .typed (← typeExpr type)

/-- **The method of a rule.** -/
def method (r : Rule) : Emit Method := do
  let name ← methodIdentifier (methodId r) (methodName r)
  let argument ← argument r.payload
  return ⟨docLines r.event.description, name, r.event.kind, r.event.name, r.part, argument⟩

/-- The methods of rules, in order, and how many rules were passed over: those whose part their call
does not have. -/
def methods : List Rule → Emit (List Method × Nat)
  | [] => return ([], 0)
  | r :: rest =>
    if r.isValid then do
      let m ← method r
      let (others, skipped) ← methods rest
      return (m :: others, skipped)
    else do
      let (others, skipped) ← methods rest
      return (others, skipped + 1)

/-- **The wrapper for a model.** -/
def wrapper (s : Schema) (client : Identifier) (platform generatorVersion : String)
    (metadata : PlanMetadata) : Emit Wrapper := do
  reserveBuiltins builtinMethods
  let (methods, skipped) ← methods s.rules
  return {
    name := client
    planName := s.name
    platform := platform
    generatorVersion := generatorVersion
    metadata := metadata
    methods := methods
    skipped := skipped }

end Emit

end TrackingPlan.Bindings
