import TrackingPlan.Config.Basic
import TrackingPlan.Config.Variables
import TrackingPlan.Toml.Reader

/-!
# Reading configurations

A configuration is a TOML text with variables in it.  Settings that go together are given as a table
with no other keys, or as an array in a fixed order.  In a table any setting may be missing; in an
array only those may that have a default.

§1 slots · §2 settings · §3 overrides · §4 configurations.
-/

namespace TrackingPlan.Config

/-! ## §1 Slots -/

/-- **The place of one setting**: given, absent from its table, or past the end of its array. -/
inductive Slot where
  | given (value : Toml)
  | absent
  | beyond

/-- The slots of an array, of which there are as many as keys; what goes beyond them is ignored. -/
def arraySlots : List String → List Toml → List Slot
  | [], _ => []
  | _ :: keys, [] => .beyond :: arraySlots keys []
  | _ :: keys, v :: rest => .given v :: arraySlots keys rest

/-- The slot of a key in a table. -/
def tableSlot (entries : Entries Toml) (key : String) : Slot :=
  match entries.get? key with
  | some v => .given v
  | none => .absent

/-- **The slots of the keys** in settings that go together. -/
def slots (keys : List String) : Toml → Option (List Slot)
  | .table entries =>
    if (Entries.keys entries).all keys.contains then some (keys.map (tableSlot entries)) else none
  | .array items => some (arraySlots keys items)
  | _ => none

/-- A reader of one setting. -/
abbrev Reader (α : Type) := Toml → Option α

/-- Reads a text. -/
def readText : Reader String
  | .string s => some s
  | _ => none

/-- Reads an integer. -/
def readInt64 : Reader Int64
  | .integer i => some i
  | _ => none

/-- A setting that has a default. -/
def defaulted {α : Type} (default : α) (read : Reader α) : Slot → Option α
  | .given v => read v
  | .absent | .beyond => some default

/-- A setting that may be absent. -/
def optional {α : Type} (read : Reader α) : Slot → Option (Option α)
  | .given v => (read v).map some
  | .absent => some none
  | .beyond => none

/-! ## §2 Settings -/

/-- Reads where the plan is. -/
def readPlan (default : String) : Reader String := fun v => do
  match ← slots ["path"] v with
  | [path] => defaulted default readText path
  | _ => none

/-- Reads what is generated. -/
def readGenerator : Reader GeneratorSettings := fun v => do
  let base : GeneratorSettings := {}
  match ← slots ["output", "file_name", "client_name", "platform", "generator_version"] v with
  | [output, fileName, clientName, platform, version] =>
    return {
      output := ← defaulted base.output readText output
      fileName := ← defaulted base.fileName readText fileName
      clientName := ← defaulted base.clientName readText clientName
      platform := ← defaulted base.platform readText platform
      generatorVersion := ← defaulted base.generatorVersion readText version }
  | _ => none

/-- Reads what stands in for the metadata of the plan. -/
def readMetadata : Reader MetadataOverride := fun v => do
  match ← slots ["tracking_plan_id", "tracking_plan_version"] v with
  | [id, version] => return ⟨← optional readText id, ← optional readInt64 version⟩
  | _ => none

/-- Reads how to log. -/
def readLog : Reader LogSettings := fun v => do
  let base : LogSettings := {}
  match ← slots ["log_level", "log_format"] v with
  | [level, format] =>
    return ⟨← defaulted base.level readText level, ← defaulted base.format readText format⟩
  | _ => none

/-! ## §3 Overrides -/

/-- Reads what an environment overrides of the generator's settings. -/
def readGeneratorOverride : Reader GeneratorOverride := fun v => do
  match ← slots ["output", "client_name"] v with
  | [output, clientName] => return ⟨← optional readText output, ← optional readText clientName⟩
  | _ => none

/-- Reads what an environment overrides of the logging. -/
def readLogOverride : Reader LogOverride := fun v => do
  match ← slots ["log_level", "log_format"] v with
  | [level, format] => return ⟨← optional readText level, ← optional readText format⟩
  | _ => none

/-- Reads what an environment overrides. -/
def readEnvironment : Reader EnvironmentOverride := fun v => do
  match ← slots ["generator", "metadata", "debug"] v with
  | [generator, metadata, log] =>
    return ⟨← optional readGeneratorOverride generator, ← optional readMetadata metadata,
      ← optional readLogOverride log⟩
  | _ => none

/-- Reads the environments: a table under their names. -/
def readEnvironments : Reader (Entries EnvironmentOverride)
  | .table entries => entries.mapM fun e => do return (e.1, ← readEnvironment e.2)
  | _ => none

/-! ## §4 Configurations -/

/-- Reads a configuration. -/
def read : Reader Config := fun v => do
  let base : Config := {}
  match ← slots ["plan", "generator", "metadata", "debug", "environments"] v with
  | [plan, generator, metadata, log, environments] =>
    return {
      planPath := ← defaulted base.planPath (readPlan base.planPath) plan
      generator := ← defaulted base.generator readGenerator generator
      metadata := ← defaulted base.metadata readMetadata metadata
      log := ← defaulted base.log readLog log
      environments := ← defaulted base.environments readEnvironments environments }
  | _ => none

/-- The configuration that a text without variables says, unchecked. -/
def ofToml? (text : String) : Option Config :=
  (Toml.ofText? text).bind fun entries => read (.table entries)

/-- **The configuration that a text says**, its variables replaced first. -/
def ofText (valueOf : String → Option String) (text : String) : Except SchemaError Config :=
  match ofToml? (expand valueOf text) with
  | none => .error .malformedToml
  | some c => do
    c.check
    return c

end TrackingPlan.Config
