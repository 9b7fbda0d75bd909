import TrackingPlan.Config.Reader
import TrackingPlan.Document.Reader
import TrackingPlan.Files.System
import TrackingPlan.Schema.Validation

/-!
# Plans and configurations from files

§1 reading · §2 finding a plan · §3 a plan with its configuration.
-/

namespace TrackingPlan.Files

/-! ## §1 Reading -/

namespace FileSystem

/-- The text of a file, or the error that it cannot be read. -/
def text (fs : FileSystem) (p : Path) : Except SchemaError String :=
  match fs.text? p with
  | some s => .ok s
  | none => .error (.unreadableFile p.text)

/-- **The plan in a file.** -/
def document (fs : FileSystem) (p : Path) : Except SchemaError Document := do
  Document.ofText (← fs.text p)

/-- The model of the plan in a file. -/
def schema (fs : FileSystem) (p : Path) : Except SchemaError Schema := do
  (← fs.document p).toSchema

/-- **The configuration in a file.** -/
def config (fs : FileSystem) (valueOf : String → Option String) (p : Path) :
    Except SchemaError Config := do
  Config.ofText valueOf (← fs.text p)

end FileSystem

/-! ## §2 Finding a plan -/

/-- **Where a plan is looked for**: in the directory of the project, if that is known, and in the
working directory.  Variables may stand in a configuration. -/
structure Surroundings where
  projectDirectory : Option Path
  workingDirectory : Path
  valueOf : String → Option String

/-- **Why no plan could be had.** -/
inductive PlanFileError where
  | notFound (path : Path)
  | invalid (path : Path) (error : SchemaError)

/-- The places that were searched, in words. -/
def searchedPlaces (p : Path) : List String :=
  ["CARGO_MANIFEST_DIR/" ++ p.text, "(absolute) " ++ p.text, "(current_dir) " ++ p.text]

/-- The error in words. -/
def PlanFileError.message : PlanFileError → String
  | notFound path =>
    "plan file '" ++ path.text ++ "' not found. Searched in:\n" ++
      "\n".intercalate ((searchedPlaces path).map fun place => "  - " ++ place)
  | invalid path error => "invalid plan '" ++ path.text ++ "':\n" ++ error.report

/-- The places where a plan may be, in the order of the search. -/
def Surroundings.candidates (s : Surroundings) (p : Path) : List Path :=
  (s.projectDirectory.map fun dir => dir.join p).toList ++
    (if p.isAbsolute then [p] else []) ++ [s.workingDirectory.join p]

/-- The name of the file that a configuration is in. -/
def configName : Path :=
  ⟨"typer.toml"⟩

/-- How many directories above a plan are searched for its configuration. -/
def configReach : Nat :=
  5

/-- **The configuration nearest to a plan**: in its directory, or in one of those above. -/
def FileSystem.configPath? (fs : FileSystem) (plan : Path) : Option Path :=
  ((plan.parents configReach).map fun dir => dir.join configName).find? fs.contains

/-! ## §3 A plan with its configuration -/

/-- **A plan from a file**, with the configuration nearest to it. -/
structure PlanFile where
  schema : Schema
  path : Path
  config : Option (Path × Config)

/-- The files that the plan depends on. -/
def PlanFile.trackedFiles (f : PlanFile) : List Path :=
  f.path :: (f.config.map (·.1)).toList

/-- The result, or why the plan in a file is invalid. -/
def orInvalid {α : Type} (p : Path) : Except SchemaError α → Except PlanFileError α
  | .ok a => .ok a
  | .error e => .error (.invalid p e)

/-- **Reads a plan**, and the configuration nearest to it. -/
def FileSystem.planFile (fs : FileSystem) (s : Surroundings) (p : Path) :
    Except PlanFileError PlanFile :=
  match (s.candidates p).find? fs.contains with
  | none => .error (.notFound p)
  | some path => do
    let schema ← orInvalid path (fs.schema path)
    match fs.configPath? path with
    | none => return ⟨schema, path, none⟩
    | some configPath =>
      let config ← orInvalid configPath (fs.config s.valueOf configPath)
      return ⟨schema, path, some (configPath, config)⟩

end TrackingPlan.Files
