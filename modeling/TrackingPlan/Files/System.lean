import TrackingPlan.Files.Path

/-!
# A file system

A file system holds directories and files by their *location*, the names that lead to them from the
root.  A path is followed from the root part by part, and every part but the last has to lead to a
directory that is there.

§1 what is held · §2 following paths · §3 reading · §4 making directories · §5 placing files.
-/

namespace TrackingPlan.Files

/-! ## §1 What is held -/

/-- **Where something is**: the names that lead to it, the innermost first. -/
abbrev Location := List String

/-- **What is at a location**: a directory, or a file with its content. -/
inductive Node where
  | directory
  | file (content : ByteArray)

/-- **A file system.**  The root is a directory always. -/
structure FileSystem where
  nodes : List (Location × Node) := []

/-- Why a path cannot be used: something on it is missing, or it is no path that could be there. -/
inductive Fault where
  | missing
  | unusable
deriving DecidableEq

/-- Sets what is at a location. -/
def setNode (l : Location) (n : Node) : List (Location × Node) → List (Location × Node)
  | [] => [(l, n)]
  | (k, m) :: rest => if k == l then (k, n) :: rest else (k, m) :: setNode l n rest

namespace FileSystem

/-- What is at a location. -/
def node? (fs : FileSystem) (l : Location) : Option Node :=
  if l.isEmpty then some .directory else (fs.nodes.find? (·.1 == l)).map (·.2)

/-- The file system with something else at a location. -/
def put (fs : FileSystem) (l : Location) (n : Node) : FileSystem :=
  ⟨setNode l n fs.nodes⟩

/-! ## §2 Following paths -/

/-- The longest name, in bytes. -/
def nameLimit : Nat :=
  255

/-- The longest path, in bytes. -/
def pathLimit : Nat :=
  4095

/-- Follows one part of a path from a location. -/
def follow (fs : FileSystem) (here : Location) (part : String) : Except Fault Location :=
  match fs.node? here with
  | none => .error .missing
  | some (.file _) => .error .unusable
  | some .directory =>
    if part.isEmpty || part == "." then .ok here
    else if part == Path.up then .ok here.tail
    else if nameLimit < part.utf8ByteSize then .error .unusable
    else .ok (part :: here)

/-- **Where a path leads**; nothing need be there yet.  No path has a zero character, and none is
longer than the limit. -/
def locate (fs : FileSystem) (p : Path) : Except Fault Location :=
  if p.text.toList.any (·.toNat == 0) || pathLimit < p.text.utf8ByteSize then .error .unusable
  else p.parts.foldlM fs.follow []

/-- What a path leads to. -/
def find? (fs : FileSystem) (p : Path) : Option Node :=
  match fs.locate p with
  | .ok l => fs.node? l
  | .error _ => none

/-! ## §3 Reading -/

/-- Whether a path leads to something. -/
def contains (fs : FileSystem) (p : Path) : Bool :=
  (fs.find? p).isSome

/-- Whether a path leads to a directory. -/
def isDirectory (fs : FileSystem) (p : Path) : Bool :=
  match fs.find? p with
  | some .directory => true
  | _ => false

/-- **The text of the file** that a path leads to, if its content is text. -/
def text? (fs : FileSystem) (p : Path) : Option String :=
  match fs.find? p with
  | some (.file content) => String.fromUTF8? content
  | _ => none

/-! ## §4 Making directories -/

/-- Makes one directory. -/
def makeDirectory (fs : FileSystem) (p : Path) : Except Fault FileSystem :=
  match fs.locate p with
  | .error fault => .error fault
  | .ok l => if (fs.node? l).isSome then .error .unusable else .ok (fs.put l .directory)

/-- **Makes a directory and those above it that are missing**, and tells whether the directory is
there now.  The first argument bounds how many there are above. -/
def makeDirectories : Nat → FileSystem → Path → FileSystem × Bool
  | count, fs, p =>
    if p.isEmpty then (fs, true)
    else
      match fs.makeDirectory p, count with
      | .ok fs, _ => (fs, true)
      | .error .unusable, _ => (fs, fs.isDirectory p)
      | .error .missing, 0 => (fs, false)
      | .error .missing, count + 1 =>
        match p.parent? with
        | none => (fs, false)
        | some q =>
          match makeDirectories count fs q with
          | (fs, false) => (fs, false)
          | (fs, true) =>
            match fs.makeDirectory p with
            | .ok fs => (fs, true)
            | .error _ => (fs, fs.isDirectory p)

/-! ## §5 Placing files -/

/-- Whether a path ends in the name of a file. -/
def endsInName (p : Path) : Bool :=
  match p.parts.getLast? with
  | some part => !(part.isEmpty || part == "." || part == Path.up)
  | none => false

/-- **Places a file** where a path leads, in place of the file there. -/
def place (fs : FileSystem) (p : Path) (content : ByteArray) : Except Fault FileSystem :=
  if !endsInName p then .error .unusable
  else
    match fs.locate p with
    | .error fault => .error fault
    | .ok l =>
      match fs.node? l with
      | some .directory => .error .unusable
      | _ => .ok (fs.put l (.file content))

end FileSystem

end TrackingPlan.Files
