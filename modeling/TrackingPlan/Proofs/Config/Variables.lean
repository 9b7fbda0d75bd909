import TrackingPlan.Config.Variables
import Mathlib.Data.List.Basic

/-!
# What expanding the variables of a text does

Read from the left, a text is made of variables and of characters that begin none, and it can be
read in this way only (`Pieces`).  Expanding replaces each variable that is set and keeps every
other piece as it is written, so what a variable stands for is never read again.  A name may hold
anything but a closing brace: `${a${b}` is the one variable `a${b`, while `${}` and a `${` that is
never closed are plain characters.

§1 the pieces of a text · §2 reading a text in the one way · §3 expanding, piece by piece
-/

namespace TrackingPlan.Config

/-! ## §1 — The pieces of a text -/

/-- **The name of a variable**: some characters, none of which closes the variable. -/
def IsName (name : List Char) : Prop :=
  name ≠ [] ∧ '\x7d' ∉ name

/-- A variable as a text holds it. -/
def variableText (name : List Char) : List Char :=
  variableMark ++ name ++ ['\x7d']

/-- A variable stands at the beginning of the text. -/
def BeginsVariable (cs : List Char) : Prop :=
  ∃ name rest, IsName name ∧ cs = variableText name ++ rest

/-- **A piece of a text**: one character, or a variable with its mark and its closing brace. -/
inductive Piece where
  | character (c : Char)
  | reference (name : List Char)
  deriving DecidableEq, Repr

namespace Piece

/-- The piece as the text holds it. -/
def written : Piece → List Char
  | .character c => [c]
  | .reference name => variableText name

/-- **What the piece becomes**: the value of a variable that is set, and else what is written. -/
def expanded (valueOf : String → Option String) : Piece → List Char
  | .character c => [c]
  | .reference name => ((valueOf (String.ofList name)).map String.toList).getD
      (variableText name)

theorem expanded_of_unset {valueOf : String → Option String} {p : Piece}
    (h : ∀ name, p = .reference name → valueOf (String.ofList name) = none) :
    p.expanded valueOf = p.written := by
  cases p with
  | character c => rfl
  | reference name => simp only [expanded, written, h name rfl, Option.map_none, Option.getD_none]

end Piece

/-- **The text is read from the left as these pieces**: a variable wherever one begins, and past
its closing brace; else the one character that stands there. -/
inductive Pieces : List Char → List Piece → Prop where
  | nil : Pieces [] []
  | character {c rest ps} : ¬ BeginsVariable (c :: rest) → Pieces rest ps →
      Pieces (c :: rest) (.character c :: ps)
  | reference {name rest ps} : IsName name → Pieces rest ps →
      Pieces (variableText name ++ rest) (.reference name :: ps)

/-! ## §2 — Reading a text in the one way -/

theorem variableText_append (name rest : List Char) :
    variableText name ++ rest = '$' :: '\x7b' :: (name ++ '\x7d' :: rest) := by
  simp [variableText, variableMark]

/-- A name ends at the first closing brace. -/
theorem takeWhile_closed {name : List Char} (h : '\x7d' ∉ name) (rest : List Char) :
    (name ++ '\x7d' :: rest).takeWhile (fun c => decide (c ≠ '\x7d')) = name := by
  have hname : ∀ c ∈ name, decide (c ≠ '\x7d') = true := fun c hc =>
    decide_eq_true fun he => h (he ▸ hc)
  rw [List.takeWhile_append_of_pos hname, List.takeWhile_cons_of_neg (by simp), List.append_nil]

/-- No two variables begin at one place. -/
theorem variableText_append_inj {name name' rest rest' : List Char} (hn : IsName name)
    (hn' : IsName name') (h : variableText name ++ rest = variableText name' ++ rest') :
    name = name' ∧ rest = rest' := by
  simp only [variableText_append, List.cons.injEq, true_and] at h
  obtain rfl : name = name' := by
    rw [← takeWhile_closed hn.2 rest, h, takeWhile_closed hn'.2]
  exact ⟨rfl, (List.cons.inj (List.append_cancel_left h)).2⟩

/-- **Every text has its pieces.** -/
theorem exists_pieces (cs : List Char) : ∃ ps, Pieces cs ps := by
  -- on the length, as a variable takes several characters at once
  induction hn : cs.length using Nat.strongRecOn generalizing cs with
  | _ n ih =>
    cases cs with
    | nil => exact ⟨[], .nil⟩
    | cons c rest =>
        rw [List.length_cons] at hn
        by_cases hb : BeginsVariable (c :: rest)
        · obtain ⟨name, rest', hname, hcs⟩ := hb
          have hlength := congrArg List.length hcs
          simp only [variableText_append, List.length_cons, List.length_append] at hlength
          obtain ⟨ps, hps⟩ := ih rest'.length (by omega) rest' rfl
          exact ⟨.reference name :: ps, hcs ▸ Pieces.reference hname hps⟩
        · obtain ⟨ps, hps⟩ := ih rest.length (by omega) rest rfl
          exact ⟨.character c :: ps, .character hb hps⟩

namespace Pieces

/-- **A text has no other pieces.** -/
theorem unique {cs : List Char} {ps qs : List Piece} (hp : Pieces cs ps) (hq : Pieces cs qs) :
    ps = qs := by
  -- the text is generalised below: `cases` cannot take the text of a variable apart
  induction hp generalizing qs with
  | nil =>
      generalize hcs : ([] : List Char) = cs at hq
      cases hq with
      | nil => rfl
      | character _ _ => cases hcs
      | reference _ _ => rw [variableText_append] at hcs; cases hcs
  | @character c rest ps hb _ ih =>
      generalize hcs : c :: rest = cs at hq
      cases hq with
      | nil => cases hcs
      | character _ hq => obtain ⟨rfl, rfl⟩ := List.cons.inj hcs; rw [ih hq]
      | reference hn _ => exact absurd ⟨_, _, hn, hcs⟩ hb
  | @reference name rest ps hn _ ih =>
      generalize hcs : variableText name ++ rest = cs at hq
      cases hq with
      | nil => rw [variableText_append] at hcs; cases hcs
      | character hb _ => exact absurd ⟨name, rest, hn, hcs.symm⟩ hb
      | reference hn' hq =>
          obtain ⟨rfl, rfl⟩ := variableText_append_inj hn hn' hcs
          rw [ih hq]

/-- The pieces leave nothing of the text out. -/
theorem flatMap_written {cs : List Char} {ps : List Piece} (h : Pieces cs ps) :
    ps.flatMap Piece.written = cs := by
  induction h with
  | nil => rfl
  | character _ _ ih => rw [List.flatMap_cons, ih]; rfl
  | reference _ _ ih => rw [List.flatMap_cons, ih]; rfl

end Pieces

/-! ## §3 — Expanding, piece by piece -/

section Expanding

variable {valueOf : String → Option String}

theorem substitute_eq_expanded (name : List Char) :
    substitute valueOf name = (Piece.reference name).expanded valueOf := by
  cases h : valueOf (String.ofList name) <;> simp [substitute, Piece.expanded, h, variableText]

/-- Outside a variable, a character is kept unless it and the next one are the mark. -/
theorem expandFrom_cons {c : Char} {rest : List Char}
    (h : ∀ rest', c :: rest ≠ variableMark ++ rest') :
    expandFrom valueOf none (c :: rest) = c :: expandFrom valueOf none rest := by
  rw [expandFrom]
  rintro rest' rfl rfl
  exact h rest' rfl

/-- A text with no closing brace holds no variable. -/
theorem expandFrom_of_unclosed {cs : List Char} (h : '\x7d' ∉ cs) (name : List Char) :
    expandFrom valueOf (some name) cs = variableMark ++ name.reverse ++ cs := by
  induction cs generalizing name with
  | nil => simp [expandFrom]
  | cons c rest ih =>
      obtain ⟨hc, hrest⟩ := not_or.1 (mt List.mem_cons.2 h)
      cases name <;> simp [expandFrom, Ne.symm hc, ih hrest]

theorem expandFrom_none_of_unclosed {cs : List Char} (h : '\x7d' ∉ cs) :
    expandFrom valueOf none cs = cs := by
  induction cs with
  | nil => rfl
  | cons c rest ih =>
      by_cases hm : ∃ rest', c :: rest = variableMark ++ rest'
      · obtain ⟨rest', hm⟩ := hm
        rw [hm] at h ⊢
        exact expandFrom_of_unclosed (fun hmem => h (List.mem_append_right _ hmem)) []
      · rw [expandFrom_cons (not_exists.1 hm), ih (fun hmem => h (List.mem_cons_of_mem _ hmem))]

/-- In a variable, what is read up to the closing brace ends its name. -/
theorem expandFrom_of_closed {name : List Char} (h : '\x7d' ∉ name) (before rest : List Char)
    (hne : before ≠ [] ∨ name ≠ []) :
    expandFrom valueOf (some before) (name ++ '\x7d' :: rest) =
      substitute valueOf (before.reverse ++ name) ++ expandFrom valueOf none rest := by
  induction name generalizing before with
  | nil =>
      obtain ⟨c, before, rfl⟩ := List.exists_cons_of_ne_nil (hne.resolve_right (· rfl))
      rw [List.nil_append, List.append_nil, expandFrom]
      simp
  | cons c name ih =>
      obtain ⟨hc, hname⟩ := not_or.1 (mt List.mem_cons.2 h)
      have hstep : expandFrom valueOf (some before) (c :: (name ++ '\x7d' :: rest)) =
          expandFrom valueOf (some (c :: before)) (name ++ '\x7d' :: rest) := by
        cases before <;> simp [expandFrom, Ne.symm hc]
      rw [List.cons_append, hstep, ih hname _ (.inl (List.cons_ne_nil _ _))]
      simp

/-- A variable becomes what it stands for, and the text goes on past it. -/
theorem expandFrom_reference {name : List Char} (h : IsName name) (rest : List Char) :
    expandFrom valueOf none (variableText name ++ rest) =
      (Piece.reference name).expanded valueOf ++ expandFrom valueOf none rest := by
  rw [variableText_append, expandFrom, expandFrom_of_closed h.2 [] rest (.inr h.1),
    substitute_eq_expanded, List.reverse_nil, List.nil_append]

/-- **A character that begins no variable is kept**, a mark's first one too: what follows the mark
is then empty up to a closing brace, or never closed. -/
theorem expandFrom_character {c : Char} {rest : List Char} (h : ¬ BeginsVariable (c :: rest)) :
    expandFrom valueOf none (c :: rest) = c :: expandFrom valueOf none rest := by
  by_cases hm : ∃ rest', c :: rest = variableMark ++ rest'
  · obtain ⟨rest', hm⟩ := hm
    obtain ⟨rfl, rfl⟩ := List.cons.inj hm
    by_cases hclosed : '\x7d' ∈ rest'
    · obtain ⟨name, after, rfl, hname⟩ := List.eq_append_cons_of_mem hclosed
      -- up to the first brace there is a name, unless it is empty
      have hnil : name = [] := by
        by_contra hne
        exact h ⟨name, after, ⟨hne, hname⟩, (variableText_append name after).symm⟩
      subst hnil
      simp [expandFrom, variableMark]
    · -- no brace is left, so both sides keep the whole text
      have hrest : '\x7d' ∉ '\x7b' :: rest' := by simpa using hclosed
      exact (expandFrom_of_unclosed hclosed []).trans
        (congrArg (List.cons '$') (expandFrom_none_of_unclosed hrest).symm)
  · exact expandFrom_cons (not_exists.1 hm)

/-- Expanding a text expands its pieces, each on its own. -/
theorem Pieces.expandFrom_eq {cs : List Char} {ps : List Piece} (h : Pieces cs ps) :
    expandFrom valueOf none cs = ps.flatMap (Piece.expanded valueOf) := by
  induction h with
  | nil => rfl
  | character hb _ ih => rw [expandFrom_character hb, ih]; rfl
  | reference hn _ ih => rw [expandFrom_reference hn, ih]; rfl

end Expanding

/-- **Expanding is one pass over the pieces of the text.**  The text is read from the left as
variables and other characters in one way only, and nothing of it is left out.  Whatever is set,
each variable becomes its value when it is set and stays as written when it is not, every other
character stays, and no value is read again; a text none of whose variables is set is unchanged. -/
theorem expand_eq_expanded_pieces (text : String) :
    ∃ ps, Pieces text.toList ps ∧ (∀ qs, Pieces text.toList qs → qs = ps) ∧
      ps.flatMap Piece.written = text.toList ∧
      ∀ valueOf : String → Option String,
        (expand valueOf text).toList = ps.flatMap (Piece.expanded valueOf) ∧
        ((∀ name, Piece.reference name ∈ ps → valueOf (String.ofList name) = none) →
          expand valueOf text = text) := by
  obtain ⟨ps, hps⟩ := exists_pieces text.toList
  refine ⟨ps, hps, fun qs hqs => hqs.unique hps, hps.flatMap_written, fun valueOf => ?_⟩
  have hexpand : (expand valueOf text).toList = ps.flatMap (Piece.expanded valueOf) := by
    rw [expand, String.toList_ofList, hps.expandFrom_eq]
  refine ⟨hexpand, fun hunset => String.toList_inj.1 ?_⟩
  have hkept : ∀ p ∈ ps, p.expanded valueOf = p.written := fun p hp =>
    Piece.expanded_of_unset fun name hname => hunset name (hname ▸ hp)
  rw [hexpand, List.flatMap_congr hkept, hps.flatMap_written]

/-- A mark inside a name belongs to the name, and the value of that variable is not read again. -/
example : expand (fun name => if name = "a$\x7bb" then some "$\x7bc\x7d" else some "set")
    "$\x7ba$\x7bb\x7d\x7d $\x7b\x7d $\x7bc" = "$\x7bc\x7d\x7d $\x7b\x7d $\x7bc" := by
  decide

end TrackingPlan.Config
