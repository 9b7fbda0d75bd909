/-!
# The registry of names — every name of a scope is given out once

Two plan names can ask for one emitted name.  A registry hands names out by *scope*: an id that
asks again in a scope gets the name it has, and a new id whose name is taken gets another one from
the registry's way of resolving collisions, which by default appends the least positive number
that makes the name free.
-/

namespace TrackingPlan.Naming

/-- Why a name cannot be given out. -/
inductive NameFault where
  | emptyId
  | emptyScope
  | emptyName
  | emptyIdentifier
deriving DecidableEq

/-- **A name that cannot be given out**, as it is shown, and why. -/
structure NameError where
  name : String
  fault : NameFault
deriving DecidableEq

/-- The reason in words. -/
def NameFault.message : NameFault → String
  | .emptyId => "id cannot be empty"
  | .emptyScope => "scope cannot be empty"
  | .emptyName => "name cannot be empty"
  | .emptyIdentifier => "name produces an empty identifier"

/-- What a taken name becomes, given the names taken in its scope. -/
abbrev CollisionHandler := String → List String → String

/-- The names `name1`, `name2`, …, of which there are `count`. -/
def numbered (name : String) (count : Nat) : List String :=
  (List.range count).map fun n => name ++ toString (n + 1)

/-- Appends the least positive number that makes the name free.  One more candidate than there are
names taken is enough, because the candidates differ. -/
def appendNumber : CollisionHandler := fun name taken =>
  ((numbered name (taken.length + 1)).find? fun candidate => !taken.contains candidate).getD name

/-- One name given out: in a scope, to an id. -/
structure Registration where
  scope : String
  id : String
  name : String
deriving DecidableEq

/-- **A registry**: the names given out, in order, and what to do when two collide. -/
structure Registry where
  registrations : List Registration := []
  onCollision : CollisionHandler := appendNumber

namespace Registry

/-- The names taken in a scope, in order. -/
def taken (r : Registry) (scope : String) : List String :=
  (r.registrations.filter (·.scope == scope)).map (·.name)

/-- The name an id has in a scope. -/
def get? (r : Registry) (id scope : String) : Option String :=
  (r.registrations.find? fun e => e.scope == scope && e.id == id).map (·.name)

/-- The name a new id gets in a scope when it asks for `name`. -/
def choose (r : Registry) (scope name : String) : String :=
  let taken := r.taken scope
  if taken.contains name then r.onCollision name taken else name

/-- **Registers `name` for `id` in `scope`** and gives the name actually assigned.  Nothing is
registered when the id, the scope or the name is empty. -/
def register (r : Registry) (id scope name : String) : Except NameError (String × Registry) :=
  if id.isEmpty then .error ⟨name, .emptyId⟩
  else if scope.isEmpty then .error ⟨name, .emptyScope⟩
  else if name.isEmpty then .error ⟨id, .emptyName⟩
  else
    match r.get? id scope with
    | some assigned => .ok (assigned, r)
    | none =>
      let assigned := r.choose scope name
      .ok (assigned, { r with registrations := r.registrations ++ [⟨scope, id, assigned⟩] })

end Registry

end TrackingPlan.Naming
