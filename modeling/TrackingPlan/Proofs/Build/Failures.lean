import TrackingPlan.Proofs.Steps
import TrackingPlan.Schema.OfDocument

/-!
# Failures that are not about cycles

Much of building reads values, names cases and resolves alternations.  None of this looks at another
custom type, so it never reports one as cyclic (`Build.NeverCyclic`).

§1 steps · §2 values · §3 alternations.
-/

namespace TrackingPlan.Build

variable {α β : Type}

/-! ## §1 Steps -/

/-- **The step fails for another reason than a cycle**, if it fails. -/
def NeverCyclic (x : Except SchemaError α) : Prop :=
  ∀ name, x ≠ .error (.cyclicType name)

namespace NeverCyclic

theorem ok (a : α) : NeverCyclic (.ok a) :=
  nofun

theorem error {e : SchemaError} (h : ∀ name, e ≠ .cyclicType name) :
    NeverCyclic (.error e : Except SchemaError α) :=
  fun name heq => h name (Except.error.inj heq)

theorem bind {x : Except SchemaError α} {f : α → Except SchemaError β} (hx : NeverCyclic x)
    (hf : ∀ a, NeverCyclic (f a)) : NeverCyclic (x >>= f) := by
  intro name h
  rcases except_bind_eq_error.mp h with h | ⟨a, -, h⟩
  · exact hx name h
  · exact hf a name h

theorem mapM {f : α → Except SchemaError β} (h : ∀ a, NeverCyclic (f a)) (xs : List α) :
    NeverCyclic (xs.mapM f) := by
  induction xs with
  | nil => exact ok []
  | cons x rest ih =>
    rw [List.mapM_cons]
    exact (h x).bind fun b => ih.bind fun bs => ok (b :: bs)

theorem mapError {ε : Type} (x : Except ε α) {g : ε → SchemaError}
    (h : ∀ e name, g e ≠ .cyclicType name) : NeverCyclic (x.mapError g) := by
  cases x with
  | ok a => exact ok a
  | error e => exact error (h e)

/-! ## §2 Values -/

theorem valueKind (owner : String) (ref : TypeRef) : NeverCyclic (valueKind owner ref) := by
  cases ref <;> first | exact ok _ | exact error nofun

theorem enumValues (owner : String) (config : Option Document.TypeConfig) :
    NeverCyclic (enumValues owner config) := by
  unfold Build.enumValues
  split
  · exact ok none
  · refine bind (mapM (fun v => ?_) _) fun literals => ok (some literals)
    split
    · exact ok _
    · exact error nofun

theorem caseTags (name : TypeName) (c : Document.Case) : NeverCyclic (caseTags name c) := by
  refine mapM (fun v => ?_) _
  split
  · exact ok _
  · exact error nofun

theorem casesFrom (name : TypeName) (values : List Literal) :
    ∀ seen names, NeverCyclic (EnumType.casesFrom name seen values names) := by
  induction values with
  | nil => exact fun _ _ => ok []
  | cons value rest ih =>
    intro seen names
    unfold EnumType.casesFrom
    dsimp only
    split
    · exact error nofun
    · exact bind (mapError _ fun _ _ => nofun) fun _ => (ih _ _).bind fun _ => ok _

theorem ofValues (name : TypeName) (description : Option String) (values : List Literal) :
    NeverCyclic (EnumType.ofValues name description values) := by
  unfold EnumType.ofValues
  dsimp only
  split
  · exact error nofun
  · exact (casesFrom name values [] {}).bind fun _ => ok _

theorem ofFields (name : TypeName) (description : Option String) (fields : List Field) :
    NeverCyclic (RecordType.ofFields name description fields) := by
  refine bind (x := ensureUniqueKeys name fields) ?_ fun _ => ok _
  unfold ensureUniqueKeys
  split
  · exact error nofun
  · exact ok ()

/-! ## §3 Alternations -/

theorem resolveTag (node : DiscriminatedNode) (field : Field) (shape : TaggedShape)
    (fields : List Field) (tag : Literal) (s : TagState) :
    NeverCyclic (node.resolveTag field shape fields tag s) := by
  unfold DiscriminatedNode.resolveTag
  dsimp only
  split
  · exact error nofun
  · split
    · exact error nofun
    · split
      · exact error nofun
      · exact bind (mapError _ fun _ _ => nofun) fun _ => ok _

theorem resolveTags (node : DiscriminatedNode) (field : Field) (shape : TaggedShape)
    (fields : List Field) (tags : List Literal) :
    ∀ s, NeverCyclic (node.resolveTags field shape fields tags s) := by
  induction tags with
  | nil => exact fun s => ok ([], s)
  | cons tag rest ih =>
    intro s
    exact (resolveTag node field shape fields tag s).bind fun _ => (ih _).bind fun _ => ok _

theorem resolveShapes (node : DiscriminatedNode) (field : Field) (base : List Field)
    (shapes : List TaggedShape) : ∀ s, NeverCyclic (node.resolveShapes field base shapes s) := by
  induction shapes with
  | nil => exact fun _ => ok []
  | cons shape rest ih =>
    intro s
    unfold DiscriminatedNode.resolveShapes
    dsimp only
    split
    · exact error nofun
    · exact (resolveTags node field shape _ shape.tags s).bind fun _ => (ih _).bind fun _ => ok _

theorem alternation (node : AlternationNode) : NeverCyclic node.resolve := by
  cases node with
  | discriminated node =>
    show NeverCyclic node.resolve
    unfold DiscriminatedNode.resolve
    split
    · exact error nofun
    · dsimp only
      split
      · exact error nofun
      · exact (resolveShapes node _ _ node.shapes {}).bind fun _ => ok _
  | primitive node =>
    show NeverCyclic node.resolve
    unfold PrimitiveNode.resolve
    dsimp only
    split
    · exact error nofun
    · split
      · exact error nofun
      · exact ok _

theorem resolver (r : Resolver) (node : AlternationNode) : NeverCyclic (r.resolve node) := by
  unfold Resolver.resolve
  split
  · exact ok _
  · exact (alternation node).bind fun _ => ok _

end NeverCyclic

end TrackingPlan.Build
