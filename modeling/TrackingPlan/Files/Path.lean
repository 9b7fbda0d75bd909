/-!
# Paths

A path is kept as it is written: nothing is taken out of it or resolved before it is used.  Slashes
separate its *parts*, of which empty ones and single dots say nothing; a path that begins with a
slash is absolute.

§1 parts · §2 joining · §3 parents.
-/

namespace TrackingPlan

/-- **A path**, as it is written. -/
structure Path where
  text : String
deriving DecidableEq

namespace Path

/-! ## §1 Parts -/

/-- The parts from here on; the first argument holds the current part in reverse. -/
def partsFrom : List Char → List Char → List (List Char)
  | current, [] => [current.reverse]
  | current, c :: rest =>
    if c == '/' then current.reverse :: partsFrom [] rest else partsFrom (c :: current) rest

/-- **The parts of a path**, empty ones included. -/
def parts (p : Path) : List String :=
  (partsFrom [] p.text.toList).map String.ofList

/-- Whether the path is empty. -/
def isEmpty (p : Path) : Bool :=
  p.text.isEmpty

/-- Whether the path is absolute. -/
def isAbsolute (p : Path) : Bool :=
  p.text.toList.head? == some '/'

/-- The part that leads out of a directory. -/
def up : String :=
  ".."

/-- Whether a part leads out of a directory. -/
def climbs (p : Path) : Bool :=
  p.parts.contains up

/-! ## §2 Joining -/

/-- **The path of `p` under `base`**: an absolute path stays as it is. -/
def join (base p : Path) : Path :=
  if p.isAbsolute || base.isEmpty then p
  else if base.text.toList.getLast? == some '/' then ⟨base.text ++ p.text⟩
  else ⟨base.text ++ "/" ++ p.text⟩

/-! ## §3 Parents -/

/-- The parts, last first, without those at the head that say nothing.  A dot at the beginning of a
path that is not absolute does say something. -/
def dropSilent (absolute : Bool) : List String → List String
  | [] => []
  | part :: rest =>
    if part.isEmpty || (part == "." && (absolute || !rest.isEmpty)) then dropSilent absolute rest
    else part :: rest

/-- The path of parts, last first. -/
def ofReversedParts (absolute : Bool) (parts : List String) : Path :=
  ⟨(if absolute then "/" else "") ++ "/".intercalate parts.reverse⟩

/-- **The path without its last part**; a path without any has no parent. -/
def parent? (p : Path) : Option Path :=
  let absolute := p.isAbsolute
  let parts := if absolute then p.parts.drop 1 else p.parts
  match dropSilent absolute parts.reverse with
  | [] => none
  | _ :: rest => some (ofReversedParts absolute (dropSilent absolute rest))

/-- The parents of a path, nearest first, and at most as many as given. -/
def parents : Nat → Path → List Path
  | 0, _ => []
  | count + 1, p =>
    match p.parent? with
    | none => []
    | some q => q :: parents count q

end Path

end TrackingPlan
