import TrackingPlan.Bindings.Declare
import TrackingPlan.Bindings.Encode
import TrackingPlan.Bindings.Options
import TrackingPlan.Bindings.Wrapper
import TrackingPlan.Files.Path
import TrackingPlan.Layout.OfSchema

/-!
# The file of bindings for a model

Every named type is declared, followed by the code that writes values of it; the wrapper comes last.
The name of the client is claimed before any type, so that no type takes it.

§1 items · §2 the emitted items of a run · §3 the file.
-/

namespace TrackingPlan.Bindings

/-! ## §1 Items -/

/-- **The items of some types**, how many types were declared, and how many got code. -/
structure TypeItems where
  items : List Item
  types : Nat
  encoders : Nat

namespace TypeItems

/-- No items. -/
def none : TypeItems :=
  ⟨[], 0, 0⟩

/-- Items followed by others. -/
def append (first others : TypeItems) : TypeItems where
  items := first.items ++ others.items
  types := first.types + others.types
  encoders := first.encoders + others.encoders

end TypeItems

namespace Emit

/-- Runs the step with no names registered. -/
def start {α : Type} (x : Emit α) : Except EmitError α :=
  (x.run {}).run.1

/-- Refuses the model if the result is an error. -/
def accept {α : Type} : Except SchemaError α → Emit α
  | .ok a => return a
  | .error e => reject e

/-- **The items of one named type**: its declaration, and the code that writes its values if it has
a layout of its own. -/
def typeItems (layouts : Layouts) (t : PropertyType) : Emit TypeItems :=
  match declare? t, t.name? with
  | some declare, some name => do
    let d ← declare
    match layouts.find? name with
    | some layout => return ⟨[.declaration d, .encodeImpl (← encodeImpl layout)], 1, 1⟩
    | none => return ⟨[.declaration d], 1, 0⟩
  | _, _ => return .none

/-- The items of named types, in order. -/
def allTypeItems (layouts : Layouts) : List PropertyType → Emit TypeItems
  | [] => return .none
  | t :: rest => do
    let first ← typeItems layouts t
    return first.append (← allTypeItems layouts rest)

end Emit

/-! ## §2 The emitted items of a run -/

/-- **How much was emitted.** -/
structure Counts where
  types : Nat
  encoders : Nat
  methods : Nat
  skippedRules : Nat
deriving DecidableEq

/-- **What a run emits**: the items of the types, the wrapper, and the path of the library that
they call; and how much that is. -/
structure Emitted where
  runtime : RuntimePath
  typeItems : List Item
  wrapper : Wrapper
  counts : Counts

namespace Emitted

/-- What a run emits, once it has the items of the types and the wrapper. -/
def ofParts (runtime : RuntimePath) (declared : TypeItems) (wrapper : Wrapper) : Emitted where
  runtime := runtime
  typeItems := declared.items
  wrapper := wrapper
  counts := {
    types := declared.types
    encoders := declared.encoders
    methods := wrapper.methods.length
    skippedRules := wrapper.skipped }

/-- All items, the wrapper last. -/
def items (e : Emitted) : List Item :=
  e.typeItems ++ [.wrapper e.wrapper]

/-- The declarations among the items. -/
def declarations (e : Emitted) : List Declaration :=
  e.typeItems.filterMap fun
    | .declaration d => some d
    | _ => none

/-- The encoders among the items. -/
def encodeImpls (e : Emitted) : List EncodeImpl :=
  e.typeItems.filterMap fun
    | .encodeImpl i => some i
    | _ => none

/-- All items in one line. -/
def tokensText (e : Emitted) : String :=
  Bindings.tokensText (e.items.flatMap (·.tokens e.runtime))

end Emitted

/-- **Emits the bindings for a model.** -/
def emit (o : Options) (s : Schema) : Except EmitError Emitted :=
  Emit.start do
    let runtime ← Emit.accept o.runtime
    let client ← Emit.accept o.client
    let _ ← Emit.reserveType "builtin:client" client.text
    let layouts ← Emit.accept (Layouts.ofSchema s)
    let declared ← Emit.allTypeItems layouts s.namedTypes
    let wrapper ← Emit.wrapper s client o.platform o.generatorVersion (o.metadataFor s)
    return .ofParts runtime declared wrapper

/-! ## §3 The file -/

/-- A file to be written: its path under the output directory, and its content. -/
structure GeneratedFile where
  path : Path
  content : String
deriving DecidableEq

/-- **What a run generates.** -/
structure Output where
  files : List GeneratedFile
  counts : Counts
deriving DecidableEq

/-- The comment at the head of the file: which generator made it, and of which plan. -/
def header (o : Options) (s : Schema) : String :=
  let metadata := o.metadataFor s
  "// Code generated by typer " ++ o.generatorVersion ++ ". DO NOT EDIT.\n// Tracking plan: " ++
    s.name ++ " (" ++ metadata.planId ++ " v" ++ toString metadata.planVersion.toInt ++ ")\n\n"

/-- **Generates the file of bindings**: the header, then the items with an empty line between. -/
def generate (o : Options) (s : Schema) : Except EmitError Output := do
  let emitted ← emit o s
  let items := emitted.items.map (·.text emitted.runtime)
  return {
    files := [⟨⟨o.fileName⟩, header o s ++ "\n\n".intercalate items ++ "\n"⟩]
    counts := emitted.counts }

end TrackingPlan.Bindings
