import TrackingPlan.Schema.Basic
import TrackingPlan.Schema.Error
import TrackingPlan.Text.Blank
import TrackingPlan.Version

/-!
# Configurations — settings of a project, and what environments override in them

A configuration says where the plan is, what is generated from it and under which names, which
metadata stands in for the plan's own, and how to log.  Each *environment* may override some of it.

§1 settings · §2 overrides · §3 configurations · §4 applying an environment · §5 metadata ·
§6 checks.
-/

namespace TrackingPlan

namespace Config

/-! ## §1 Settings -/

/-- What is generated, and where to. -/
structure GeneratorSettings where
  output : String := "./src/analytics"
  fileName : String := "typed_analytics.rs"
  clientName : String := "TypedAnalytics"
  platform : String := "rust"
  generatorVersion : String := generatorVersion
deriving DecidableEq

/-- What stands in for the metadata of the plan. -/
structure MetadataOverride where
  planId : Option String := none
  planVersion : Option Int64 := none
deriving DecidableEq

/-- How to log. -/
structure LogSettings where
  level : String := "warn"
  format : String := "compact"
deriving DecidableEq

/-! ## §2 Overrides -/

/-- What an environment overrides of the generator's settings. -/
structure GeneratorOverride where
  output : Option String := none
  clientName : Option String := none
deriving DecidableEq

/-- What an environment overrides of the logging. -/
structure LogOverride where
  level : Option String := none
  format : Option String := none
deriving DecidableEq

/-- **What an environment overrides.** -/
structure EnvironmentOverride where
  generator : Option GeneratorOverride := none
  metadata : Option MetadataOverride := none
  log : Option LogOverride := none
deriving DecidableEq

end Config

/-! ## §3 Configurations -/

/-- **A configuration.** -/
structure Config where
  planPath : String := "plan.json"
  generator : Config.GeneratorSettings := {}
  metadata : Config.MetadataOverride := {}
  log : Config.LogSettings := {}
  environments : Entries Config.EnvironmentOverride := []
deriving DecidableEq

namespace Config

/-! ## §4 Applying an environment -/

/-- The generator's settings under an override. -/
def GeneratorSettings.apply (s : GeneratorSettings) (o : GeneratorOverride) : GeneratorSettings :=
  { s with output := o.output.getD s.output, clientName := o.clientName.getD s.clientName }

/-- The metadata under a further override. -/
def MetadataOverride.apply (m o : MetadataOverride) : MetadataOverride :=
  ⟨o.planId.or m.planId, o.planVersion.or m.planVersion⟩

/-- The logging under an override. -/
def LogSettings.apply (s : LogSettings) (o : LogOverride) : LogSettings :=
  ⟨o.level.getD s.level, o.format.getD s.format⟩

/-- **The configuration in an environment**, which is then no longer among its environments.  An
environment that is not declared overrides nothing. -/
def inEnvironment (c : Config) (name : String) : Config :=
  match c.environments.get? name with
  | none => c
  | some o =>
    { c with
      generator := c.generator.apply (o.generator.getD {})
      metadata := c.metadata.apply (o.metadata.getD {})
      log := c.log.apply (o.log.getD {})
      environments := c.environments.filter (·.1 != name) }

/-! ## §5 Metadata -/

/-- **What the emitted code says about a plan.** -/
def resolveMetadata (c : Config) (plan : PlanMetadata) : PlanMetadata :=
  { plan with
    planId := c.metadata.planId.getD plan.planId
    planVersion := c.metadata.planVersion.getD plan.planVersion }

/-! ## §6 Checks -/

/-- Whether the name ends as that of a source file does. -/
def isSourceFile (name : String) : Bool :=
  ".rs".toList.isSuffixOf name.toList

/-- **Whether the settings can be used**: the file is a source file, and the client has a name. -/
def check (c : Config) : Except SchemaError Unit :=
  if Text.isBlankText c.generator.fileName then .error (.config .emptyFileName)
  else if !isSourceFile c.generator.fileName then
    .error (.config (.notSourceFile c.generator.fileName))
  else if Text.isBlankText c.generator.clientName then .error (.config .emptyClientName)
  else .ok ()

end Config

end TrackingPlan
