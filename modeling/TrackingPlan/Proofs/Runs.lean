import TrackingPlan.Proofs.Steps

/-!
# Runs of calls

An operation that may fail makes of a state a result and the next state, and a call that fails
leaves the state as it is.  A run is a list of calls one after another, and its history is each call
with what it answered.  What holds at the start and is kept by one call holds after every run
(`Run.invariant`); and an observer to whom some calls make no difference sees the history that the
other calls alone have (`Run.history_filter`).

§1 calls and runs · §2 one run after another · §3 what a run keeps · §4 what an observer sees.
-/

namespace TrackingPlan.Run

variable {σ κ ε α : Type}

/-! ## §1 Calls and runs -/

section Defs

variable (act : σ → κ → Except ε (α × σ))

/-- What a call answers. -/
def answer (s : σ) (c : κ) : Except ε α :=
  (act s c).map Prod.fst

/-- The state after a call; one that fails leaves it as it is. -/
def next (s : σ) (c : κ) : σ :=
  match act s c with
  | .ok (_, s') => s'
  | .error _ => s

/-- The state after a run. -/
def after (s : σ) (calls : List κ) : σ :=
  calls.foldl (next act) s

/-- **The history of a run**: its calls in order, each with its answer. -/
def history : σ → List κ → List (κ × Except ε α)
  | _, [] => []
  | s, c :: rest => (c, answer act s c) :: history (next act s c) rest

end Defs

variable {act : σ → κ → Except ε (α × σ)} {s s' : σ} {c : κ}

theorem answer_of_ok {a : α} (h : act s c = .ok (a, s')) : answer act s c = .ok a := by
  rw [answer, h]
  rfl

theorem next_of_ok {a : α} (h : act s c = .ok (a, s')) : next act s c = s' := by
  rw [next, h]

theorem answer_eq_ok_iff {a : α} :
    answer act s c = .ok a ↔ act s c = .ok (a, next act s c) := by
  constructor
  · intro h
    obtain ⟨⟨b, s'⟩, hact, rfl⟩ := except_map_eq_ok.mp h
    rw [next_of_ok hact, hact]
  · exact answer_of_ok

/-- **A call that fails changes nothing.** -/
theorem next_of_error {e : ε} (h : answer act s c = .error e) : next act s c = s := by
  cases hact : act s c with
  | error e' => rw [next, hact]
  | ok result =>
    rw [answer_of_ok hact] at h
    cases h

/-! ## §2 One run after another -/

theorem after_append (s : σ) (calls more : List κ) :
    after act s (calls ++ more) = after act (after act s calls) more :=
  List.foldl_append

theorem history_append (s : σ) (calls more : List κ) :
    history act s (calls ++ more) =
      history act s calls ++ history act (after act s calls) more := by
  induction calls generalizing s with
  | nil => rfl
  | cons c rest ih =>
    rw [List.cons_append, history, history, ih, List.cons_append]
    rfl

theorem map_fst_history (s : σ) (calls : List κ) :
    (history act s calls).map Prod.fst = calls := by
  induction calls generalizing s with
  | nil => rfl
  | cons c rest ih => rw [history, List.map_cons, ih]

/-- An answer of a run was given after the calls before it. -/
theorem exists_of_mem_history {calls : List κ} {a : Except ε α}
    (h : (c, a) ∈ history act s calls) :
    ∃ earlier later, calls = earlier ++ c :: later ∧ a = answer act (after act s earlier) c := by
  induction calls generalizing s with
  | nil => exact absurd h List.not_mem_nil
  | cons d rest ih =>
    rcases List.mem_cons.mp h with heq | hmem
    · obtain ⟨rfl, rfl⟩ := Prod.mk.inj heq
      exact ⟨[], rest, rfl, rfl⟩
    · obtain ⟨earlier, later, rfl, ha⟩ := ih hmem
      exact ⟨d :: earlier, later, rfl, ha⟩

/-! ## §3 What a run keeps -/

/-- **What holds at the start and is kept by each call holds after every run**, of the state and
the history together. -/
theorem invariant {I : σ → List (κ × Except ε α) → Prop} (start : I s [])
    (step : ∀ t past c, I t past → I (next act t c) (past ++ [(c, answer act t c)]))
    (calls : List κ) : I (after act s calls) (history act s calls) := by
  have hfrom : ∀ (rest : List κ) t past, I t past →
      I (after act t rest) (past ++ history act t rest) := by
    intro rest
    induction rest with
    | nil =>
      intro t past ht
      rw [history, List.append_nil]
      exact ht
    | cons c rest ih =>
      intro t past ht
      rw [history, List.append_cons]
      exact ih _ _ (step t past c ht)
  exact hfrom calls s [] start

/-! ## §4 What an observer sees -/

/-- **An observer sees a run of the calls that concern it**: `R` relates states that look the same
to it, in which the calls that concern it are answered alike, and the others keep the look. -/
theorem history_filter {p : κ → Bool} {R : σ → σ → Prop}
    (seen : ∀ {t u c}, R t u → p c = true →
      answer act t c = answer act u c ∧ R (next act t c) (next act u c))
    (unseen : ∀ {t u c}, R t u → p c = false → R (next act t c) u) (calls : List κ) :
    ∀ {t u}, R t u → (history act t calls).filter (fun e => p e.1) =
      history act u (calls.filter p) ∧ R (after act t calls) (after act u (calls.filter p)) := by
  induction calls with
  | nil => exact fun h => ⟨rfl, h⟩
  | cons c rest ih =>
    intro t u h
    cases hc : p c with
    | true =>
      obtain ⟨hanswer, hnext⟩ := seen h hc
      obtain ⟨hhistory, hafter⟩ := ih hnext
      rw [List.filter_cons_of_pos hc, history, history, List.filter_cons, if_pos hc, hhistory,
        hanswer]
      exact ⟨rfl, hafter⟩
    | false =>
      obtain ⟨hhistory, hafter⟩ := ih (unseen h hc)
      have hnot : ¬p c = true := Bool.eq_false_iff.mp hc
      rw [List.filter_cons_of_neg hnot, history, List.filter_cons, if_neg hnot]
      exact ⟨hhistory, hafter⟩

end TrackingPlan.Run
