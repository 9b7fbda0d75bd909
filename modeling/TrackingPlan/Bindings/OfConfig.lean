import TrackingPlan.Bindings.File
import TrackingPlan.Config.Basic
import TrackingPlan.Files.Load

/-!
# Bindings as a configuration asks for them
-/

namespace TrackingPlan.Bindings

/-- The options that a configuration says. -/
def Options.ofConfig (c : Config) : Options :=
  { clientName := c.generator.clientName
    fileName := c.generator.fileName
    platform := c.generator.platform
    generatorVersion := c.generator.generatorVersion }

/-- **Generates the bindings for the plan of a configuration**, whose path is taken under `base`. -/
def generateFromConfig (fs : Files.FileSystem) (c : Config) (base : Path) :
    Except EmitError Output := do
  let schema ← (fs.schema (base.join ⟨c.planPath⟩)).mapError EmitError.rejected
  generate { Options.ofConfig c with metadata := some (c.resolveMetadata schema.metadata) } schema

end TrackingPlan.Bindings
