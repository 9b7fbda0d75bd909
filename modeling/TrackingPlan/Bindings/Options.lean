import TrackingPlan.Bindings.PathSyntax
import TrackingPlan.Schema.Basic
import TrackingPlan.Version

/-!
# Options of a run
-/

namespace TrackingPlan.Bindings

/-- **The options of a run.**  Metadata, if given, stands in for that of the plan. -/
structure Options where
  clientName : String := "TypedAnalytics"
  fileName : String := "typed_analytics.rs"
  platform : String := "rust"
  generatorVersion : String := generatorVersion
  runtimePath : String := "::typer_runtime"
  metadata : Option PlanMetadata := none
deriving DecidableEq

namespace Options

/-- The path of the library that emitted code calls. -/
def runtime (o : Options) : Except SchemaError RuntimePath :=
  match RuntimePath.parse o.runtimePath with
  | .ok path => .ok path
  | .error fault => .error (.config (.runtimePath o.runtimePath fault))

/-- The identifier of the wrapper. -/
def client (o : Options) : Except SchemaError Identifier :=
  match Identifier.parse o.clientName with
  | .ok i => .ok i
  | .error fault => .error (.config (.clientName o.clientName fault))

/-- What the emitted code says about the plan. -/
def metadataFor (o : Options) (s : Schema) : PlanMetadata :=
  o.metadata.getD s.metadata

end Options

end TrackingPlan.Bindings
