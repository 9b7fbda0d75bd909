import TrackingPlan.Bindings.File
import TrackingPlan.Files.System

/-!
# Writing generated files under a directory

Every path is checked before anything is written, so one bad path leaves the file system as it was.
A path has to stay in the directory: it is relative, and no part of it leads out of a directory.
-/

namespace TrackingPlan.Files

open Bindings (GeneratedFile)

/-- **Why files are not written.** -/
inductive WriteError where
  | emptyBase
  | emptyPath
  | absolutePath (path : Path)
  | climbingPath (path : Path)
  | failed (path : Path)
deriving DecidableEq

namespace WriteError

/-- The error in words. -/
def message : WriteError → String
  | emptyBase => "output directory cannot be empty"
  | emptyPath => "generated file path cannot be empty"
  | absolutePath path => "generated file path " ++ ticked path.text ++ " must be relative"
  | climbingPath path =>
    "generated file path " ++ ticked path.text ++ " leaves the output directory"
  | failed path => "failed to write " ++ ticked path.text

/-- The code of the error. -/
def code : WriteError → String
  | emptyBase => "typer::codegen::empty_base_dir"
  | emptyPath => "typer::codegen::empty_path"
  | absolutePath _ => "typer::codegen::absolute_path"
  | climbingPath _ => "typer::codegen::parent_traversal"
  | failed _ => "typer::codegen::io_error"

/-- What to do about the error, if it can be said. -/
def help? : WriteError → Option String
  | climbingPath _ => some "remove `..` segments from the file name"
  | _ => none

end WriteError

/-- **Checks the path of a generated file.** -/
def checkPath (p : Path) : Except WriteError Unit :=
  if p.isEmpty then .error .emptyPath
  else if p.isAbsolute then .error (.absolutePath p)
  else if p.climbs then .error (.climbingPath p)
  else .ok ()

/-- **A directory that files are written under.** -/
structure OutputDirectory where
  path : Path
  nonempty : path.isEmpty = false

namespace OutputDirectory

/-- The directory at a path, which is not empty. -/
def ofPath (p : Path) : Except WriteError OutputDirectory :=
  if h : p.isEmpty = false then .ok ⟨p, h⟩ else .error .emptyBase

/-- Where a generated file goes. -/
def destination (d : OutputDirectory) (f : GeneratedFile) : Path :=
  d.path.join f.path

/-- Writes one file, and the directories it needs. -/
def writeFile (d : OutputDirectory) (fs : FileSystem) (f : GeneratedFile) :
    FileSystem × Except WriteError Path :=
  let target := d.destination f
  let parent := target.parent?.getD d.path
  match fs.makeDirectories parent.parts.length parent with
  | (fs, false) => (fs, .error (.failed parent))
  | (fs, true) =>
    match fs.place target f.content.toUTF8 with
    | .error _ => (fs, .error (.failed target))
    | .ok fs => (fs, .ok target)

/-- Writes files in order, up to the first that fails. -/
def writeAll (d : OutputDirectory) : FileSystem → List GeneratedFile →
    FileSystem × Except WriteError (List Path)
  | fs, [] => (fs, .ok [])
  | fs, f :: rest =>
    match d.writeFile fs f with
    | (fs, .error e) => (fs, .error e)
    | (fs, .ok target) =>
      match d.writeAll fs rest with
      | (fs, .error e) => (fs, .error e)
      | (fs, .ok targets) => (fs, .ok (target :: targets))

/-- **Writes generated files**, and gives where they went: none if the path of one is refused. -/
def write (d : OutputDirectory) (fs : FileSystem) (files : List GeneratedFile) :
    FileSystem × Except WriteError (List Path) :=
  match files.forM (fun f => checkPath f.path) with
  | .error e => (fs, .error e)
  | .ok () => d.writeAll fs files

end OutputDirectory

end TrackingPlan.Files
