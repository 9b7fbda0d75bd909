import TrackingPlan.Proofs.Bindings.Emitters
import TrackingPlan.Proofs.Steps

/-!
# The default options are accepted

The default path of the library is read by the grammar of paths.  Fixed pieces of the grammar are
texts with blanks between them, and splitting a text recurses on positions; it is done here step by
step instead (`splitOn_of_steps`), so that the fixed pieces of a path can be written out
(`Production.fixed_eq`) and the reading be computed.

§1 splitting by steps · §2 the fixed pieces of a path · §3 the default options · §4 a run once its
options are accepted.
-/

namespace TrackingPlan.Bindings

/-! ## §1 Splitting by steps -/

/-- Splitting a text at a separator, in a number of steps; nothing if they do not do. -/
def splitSteps (s sep : String) :
    Nat → String.Pos.Raw → String.Pos.Raw → String.Pos.Raw → List String → Option (List String)
  | 0, _, _, _, _ => none
  | steps + 1, b, i, j, r =>
    if String.Pos.Raw.atEnd s i then some (String.Pos.Raw.extract s b i :: r).reverse
    else if String.Pos.Raw.get s i == String.Pos.Raw.get sep j then
      let i := String.Pos.Raw.next s i
      let j := String.Pos.Raw.next sep j
      if String.Pos.Raw.atEnd sep j then
        splitSteps s sep steps i i 0 (String.Pos.Raw.extract s b (i.unoffsetBy j) :: r)
      else
        splitSteps s sep steps b i j r
    else
      splitSteps s sep steps b (String.Pos.Raw.next s (i.unoffsetBy j)) 0 r

theorem splitOnAux_of_steps {s sep : String} {steps : Nat} {b i j : String.Pos.Raw}
    {r parts : List String} (h : splitSteps s sep steps b i j r = some parts) :
    String.splitOnAux s sep b i j r = parts := by
  induction steps generalizing b i j r with
  | zero => cases h
  | succ steps ih =>
    rw [String.splitOnAux]
    rw [splitSteps] at h
    split at h
    · rename_i hend
      rw [if_pos hend]
      exact Option.some.inj h
    · rename_i hend
      rw [if_neg hend]
      split at h
      · rename_i hchar
        rw [if_pos hchar]
        dsimp only at h ⊢
        split at h
        · rename_i hsep
          rw [if_pos hsep]
          exact ih h
        · rename_i hsep
          rw [if_neg hsep]
          exact ih h
      · rename_i hchar
        rw [if_neg hchar]
        exact ih h

/-- **A text is split as so many steps split it.** -/
theorem splitOn_of_steps {s : String} {parts : List String} (steps : Nat)
    (h : splitSteps s " " steps 0 0 0 [] = some parts) : s.splitOn " " = parts := by
  have hsep : (" " == "") = false := by decide
  rw [String.splitOn, hsep]
  exact splitOnAux_of_steps h

/-! ## §2 The fixed pieces of a path -/

namespace Production

variable {σ : Type}

/-- Words and marks, one by one. -/
def pieces (texts : List String) : Production σ :=
  texts.foldr
    (fun t p =>
      let isWord := t.toList.head?.any fun c => c.isAlpha || c == '_'
      terminal (if isWord then .word t else .mark t) ++ p)
    empty

theorem fixed_eq {text : String} {parts : List String} (steps : Nat)
    (h : splitSteps text " " steps 0 0 0 [] = some parts) :
    (fixed text : Production σ) = pieces parts := by
  rw [fixed, splitOn_of_steps steps h]
  rfl

/-- What stands at the ends of the segments of a path. -/
theorem fixed_path :
    (fixed "::" : Production σ) = pieces ["::"] ∧
    (fixed ":: <" : Production σ) = pieces ["::", "<"] ∧
    (fixed "< >" : Production σ) = pieces ["<", ">"] ∧
    (fixed "<" : Production σ) = pieces ["<"] ∧
    (fixed ">" : Production σ) = pieces [">"] ∧
    (fixed "<=" : Production σ) = pieces ["<="] ∧
    (fixed "<<=" : Production σ) = pieces ["<<="] := by
  refine ⟨?_, ?_, ?_, ?_, ?_, ?_, ?_⟩ <;> exact fixed_eq 8 (by decide)

/-- The words that a segment of a path may be. -/
theorem fixed_segment :
    (fixed "super" : Production σ) = pieces ["super"] ∧
    (fixed "self" : Production σ) = pieces ["self"] ∧
    (fixed "crate" : Production σ) = pieces ["crate"] ∧
    (fixed "try" : Production σ) = pieces ["try"] ∧
    (fixed "Self" : Production σ) = pieces ["Self"] := by
  refine ⟨?_, ?_, ?_, ?_, ?_⟩ <;> exact fixed_eq 8 (by decide)

end Production

/-! ## §3 The default options -/

namespace Options

open Production Piece

/-- What the default path of the library is. -/
def defaultRuntime : RuntimePath :=
  [.mark "::", .ident ⟨"typer_runtime", false⟩]

theorem read_defaultRuntime : (pathForm false).read pathGrammar 3199
    [.mark ':' true, .mark ':' false, .ident ⟨"typer_runtime", false⟩] =
      .ok ⟨defaultRuntime, 3, [], false, some .plain⟩ := by
  obtain ⟨h₁, h₂, h₃, h₄, h₅, h₆, h₇⟩ := fixed_path (σ := Symbol)
  obtain ⟨k₁, k₂, k₃, k₄, k₅⟩ := fixed_segment (σ := Symbol)
  simp only [pathForm, Piece.segment, segmentArguments, noArguments, turbofish, angleArguments,
    furtherSegment, colonsBeforeCall, anyOf, h₁, h₂, h₃, h₄, h₅, h₆, h₇, k₁, k₂, k₃, k₄, k₅]
  rfl

theorem runtime_default : ({} : Options).runtime = .ok defaultRuntime := by
  have hlexemes : lexemes "::typer_runtime" =
      .ok [.mark ':' true, .mark ':' false, .ident ⟨"typer_runtime", false⟩] := rfl
  have hread : (Piece.path false).read pathGrammar
      (productionsPerCharacter * ("::typer_runtime".length + 1))
      [.mark ':' true, .mark ':' false, .ident ⟨"typer_runtime", false⟩] = _ := read_defaultRuntime
  have hparse : RuntimePath.parse "::typer_runtime" = .ok defaultRuntime := by
    unfold RuntimePath.parse
    rw [hlexemes]
    dsimp only [bind, Except.bind]
    rw [hread]
    rfl
  rw [runtime, hparse]

/-- What the default name of the client is. -/
def defaultClient : Identifier :=
  ⟨"TypedAnalytics", false⟩

theorem client_default : ({} : Options).client = .ok defaultClient :=
  rfl

end Options

/-! ## §4 A run once its options are accepted -/

/-- **A run with the default options** cannot fail on them. -/
theorem emit_default (s : Schema) :
    emit {} s = Emit.start
      (Emit.acceptedRun Options.defaultRuntime Options.defaultClient {} s) :=
  Emit.emit_eq_acceptedRun Options.runtime_default Options.client_default s

/-- Whether a run with the default options gives something can be computed. -/
theorem exists_emit_default {s : Schema} (h : (Emit.start
      (Emit.acceptedRun Options.defaultRuntime Options.defaultClient {} s)).toOption.isSome =
        true) :
    ∃ e, emit {} s = .ok e := by
  obtain ⟨e, he⟩ := Option.isSome_iff_exists.mp h
  exact ⟨e, (emit_default s).trans (except_toOption_eq_some.mp he)⟩

end TrackingPlan.Bindings
