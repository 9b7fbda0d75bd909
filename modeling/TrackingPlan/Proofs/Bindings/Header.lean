import TrackingPlan.Bindings.File
import TrackingPlan.Proofs.Text.Digits
import TrackingPlan.Proofs.Text.Lines

/-!
# The comment at the head of the file

The version of the generator, the name of the plan and its id stand in line comments as they are.
They stay in comments exactly if each of their line feeds is followed by the mark of a comment or
by another line feed (`header_comments_iff`).

§1 lines that are comments · §2 texts that stay in comments · §3 the header.
-/

namespace TrackingPlan.Bindings

open Text (upToFeed linesFrom)

/-! ## §1 Lines that are comments -/

/-- What a comment begins with. -/
def commentMark : List Char :=
  ['/', '/']

/-- **The line is empty or a comment.** -/
def IsCommentLine (line : String) : Prop :=
  line = "" ∨ commentMark <+: line.toList

/-- The text begins with an empty line or a comment. -/
def OpensComment (cs : List Char) : Prop :=
  cs.head? = some '\n' ∨ commentMark <+: cs

instance (line : String) : Decidable (IsCommentLine line) :=
  inferInstanceAs (Decidable (_ ∨ _))

instance (cs : List Char) : Decidable (OpensComment cs) :=
  inferInstanceAs (Decidable (_ ∨ _))

theorem isCommentLine_upToFeed {cs : List Char} (hne : cs ≠ []) :
    IsCommentLine (String.ofList (upToFeed cs)) ↔ OpensComment cs := by
  have hempty : upToFeed cs = [] ↔ cs.head? = some '\n' := by
    cases cs with
    | nil => exact absurd rfl hne
    | cons c cs =>
      by_cases hc : c = '\n'
      · simp [hc, Text.upToFeed_feed]
      · simp [hc, Text.upToFeed_cons hc]
  have hmark : commentMark <+: upToFeed cs ↔ commentMark <+: cs := by
    have hfeed : ∀ c ∈ commentMark, (c != '\n') = true := List.all_eq_true.mp (by decide)
    -- no feed stands in the mark, so the line holds it whole
    constructor
    · exact fun h => h.trans (List.takeWhile_prefix _)
    · rintro ⟨after, rfl⟩
      rw [upToFeed, List.takeWhile_append_of_pos hfeed]
      exact List.prefix_append _ _
  rw [IsCommentLine, OpensComment, String.toList_ofList, hmark, ← hempty,
    String.ofList_eq_empty_iff]

/-- What follows each line feed of the text has a property. -/
def FeedsLead (P : List Char → Prop) (cs : List Char) : Prop :=
  ∀ rest, '\n' :: rest <:+ cs → P rest

/-- **Every line after the first is empty or a comment.** -/
def FeedsKept : List Char → Prop :=
  FeedsLead fun rest => rest ≠ [] → OpensComment rest

theorem forall_lines_iff {s : String} (hopens : OpensComment s.toList) :
    (∀ line ∈ Text.lines s, IsCommentLine line) ↔ FeedsKept s.toList := by
  rw [Text.lines, List.forall_mem_map]
  constructor
  · intro h rest hsuffix hne
    exact (isCommentLine_upToFeed hne).mp
      (h _ (Text.mem_linesFrom_iff.mpr (.inr ⟨rest, hne, hsuffix, rfl⟩)))
  · intro h line hline
    rcases Text.mem_linesFrom_iff.mp hline with ⟨hne, rfl⟩ | ⟨rest, hne, hsuffix, rfl⟩
    · exact (isCommentLine_upToFeed hne).mpr hopens
    · exact (isCommentLine_upToFeed hne).mpr (h rest hsuffix hne)

/-! ## §2 Texts that stay in comments -/

/-- **The text stays in the comment that it is put into**: what follows each of its line feeds is
another one or the mark of a comment. -/
def KeepsComment : List Char → Prop :=
  FeedsLead OpensComment

theorem feedsLead_nil {P : List Char → Prop} : FeedsLead P [] :=
  fun rest hsuffix => absurd hsuffix (by simp)

theorem feedsLead_cons {P : List Char → Prop} {c : Char} {cs : List Char} :
    FeedsLead P (c :: cs) ↔ (c = '\n' → P cs) ∧ FeedsLead P cs := by
  constructor
  · intro h
    refine ⟨?_, fun rest hsuffix => h rest (hsuffix.trans (List.suffix_cons _ _))⟩
    rintro rfl
    exact h cs (List.suffix_refl _)
  · rintro ⟨hhead, htail⟩ rest hsuffix
    rcases List.suffix_cons_iff.mp hsuffix with heq | hsuffix
    · obtain ⟨rfl, rfl⟩ := List.cons.inj heq
      exact hhead rfl
    · exact htail rest hsuffix

/-- Whether a text stays in its comment is told feed by feed. -/
instance decidableKeepsComment : (cs : List Char) → Decidable (KeepsComment cs)
  | [] => isTrue feedsLead_nil
  | _ :: cs =>
    have : Decidable (FeedsLead OpensComment cs) := decidableKeepsComment cs
    decidable_of_iff _ feedsLead_cons.symm

/-- The text begins with what neither ends a line nor begins a comment. -/
def BeginsPlainly (cs : List Char) : Prop :=
  ∃ c rest, cs = c :: rest ∧ c ≠ '\n' ∧ c ≠ '/'

theorem opensComment_append {cs more : List Char} (hmore : BeginsPlainly more) :
    OpensComment (cs ++ more) ↔ OpensComment cs := by
  obtain ⟨c, rest, rfl, hfeed, hmark⟩ := hmore
  match cs with
  | [] => simp [OpensComment, commentMark, List.prefix_cons_iff, hfeed, hmark.symm]
  | [a] => simp [OpensComment, commentMark, hmark.symm]
  | a :: b :: cs => simp [OpensComment, commentMark]

/-- **A text in the middle**: what stands before it and after it decides about other lines. -/
theorem feedsKept_append {cs more : List Char} (hmore : BeginsPlainly more) :
    FeedsKept (cs ++ more) ↔ KeepsComment cs ∧ FeedsKept more := by
  induction cs with
  | nil => exact ⟨fun h => ⟨feedsLead_nil, h⟩, fun h => h.2⟩
  | cons c cs ih =>
    have hne : cs ++ more ≠ [] := by
      obtain ⟨c, rest, rfl, -⟩ := hmore
      simp
    -- a feed at the end of the text is followed by what comes after the text
    have hhead : (c = '\n' → cs ++ more ≠ [] → OpensComment (cs ++ more)) ↔
        (c = '\n' → OpensComment cs) := by
      rw [opensComment_append hmore]
      exact imp_congr_right fun _ => imp_iff_right hne
    calc FeedsKept (c :: cs ++ more)
      _ ↔ (c = '\n' → cs ++ more ≠ [] → OpensComment (cs ++ more)) ∧ FeedsKept (cs ++ more) :=
        feedsLead_cons
      _ ↔ (c = '\n' → OpensComment cs) ∧ KeepsComment cs ∧ FeedsKept more := by rw [hhead, ih]
      _ ↔ KeepsComment (c :: cs) ∧ FeedsKept more := by
        rw [← and_assoc, KeepsComment, feedsLead_cons]

/-- A text without feeds decides about no line. -/
theorem feedsKept_of_no_feed {cs : List Char} (h : '\n' ∉ cs) (more : List Char) :
    FeedsKept (cs ++ more) ↔ FeedsKept more := by
  induction cs with
  | nil => rfl
  | cons c cs ih =>
    rw [List.mem_cons, not_or] at h
    obtain ⟨hc, hcs⟩ := h
    calc FeedsKept (c :: cs ++ more)
      _ ↔ (c = '\n' → cs ++ more ≠ [] → OpensComment (cs ++ more)) ∧ FeedsKept (cs ++ more) :=
        feedsLead_cons
      _ ↔ FeedsKept (cs ++ more) := and_iff_right fun heq => absurd heq.symm hc
      _ ↔ FeedsKept more := ih hcs

/-! ## §3 The header -/

theorem feed_not_mem_toString (n : Int) : '\n' ∉ (toString n).toList := by
  intro hmem
  rw [toList_toString_int, List.mem_append] at hmem
  rcases hmem with hsign | hdigit
  · split at hsign
    · exact absurd hsign (by decide)
    · cases hsign
  · exact absurd (isDigit_of_mem_toString hdigit) (by decide)

/-- The pieces of the header, in order. -/
theorem toList_header (o : Options) (s : Schema) : (header o s).toList =
    "// Code generated by typer ".toList ++ (o.generatorVersion.toList ++
      (". DO NOT EDIT.".toList ++ '\n' :: ("// Tracking plan: ".toList ++ (s.name.toList ++
        (" (".toList ++ ((o.metadataFor s).planId.toList ++
          (" v".toList ++ ((toString (o.metadataFor s).planVersion.toInt).toList ++
            [')', '\n', '\n'])))))))) := by
  have hnotice : ". DO NOT EDIT.\n// Tracking plan: ".toList =
      ". DO NOT EDIT.".toList ++ '\n' :: "// Tracking plan: ".toList := rfl
  have hend : ")\n\n".toList = [')', '\n', '\n'] := rfl
  unfold header
  simp only [String.toList_append, hnotice, hend, List.append_assoc, List.cons_append]

theorem opensComment_header (o : Options) (s : Schema) : OpensComment (header o s).toList := by
  have hmark : "// Code generated by typer ".toList =
      commentMark ++ " Code generated by typer ".toList := rfl
  rw [toList_header, hmark, List.append_assoc]
  exact .inr (List.prefix_append _ _)

theorem BeginsPlainly.append {cs : List Char} (h : BeginsPlainly cs) (more : List Char) :
    BeginsPlainly (cs ++ more) := by
  obtain ⟨c, rest, rfl, hc⟩ := h
  exact ⟨c, rest ++ more, rfl, hc⟩

/-- **The header is all comments exactly if the three texts in it stay in theirs.** -/
theorem header_comments_iff {o : Options} {s : Schema} :
    (∀ line ∈ Text.lines (header o s), IsCommentLine line) ↔
      KeepsComment o.generatorVersion.toList ∧ KeepsComment s.name.toList ∧
        KeepsComment (o.metadataFor s).planId.toList := by
  have hnotice : BeginsPlainly ". DO NOT EDIT.".toList := ⟨'.', _, rfl, by decide, by decide⟩
  have hid : BeginsPlainly " (".toList := ⟨' ', _, rfl, by decide, by decide⟩
  have hversion : BeginsPlainly " v".toList := ⟨' ', _, rfl, by decide, by decide⟩
  have hplan : ∀ more, OpensComment ("// Tracking plan: ".toList ++ more) := by
    have hmark : "// Tracking plan: ".toList = commentMark ++ " Tracking plan: ".toList := rfl
    intro more
    rw [hmark, List.append_assoc]
    exact .inr (List.prefix_append _ _)
  have hend : FeedsKept [')', '\n', '\n'] := by
    rw [FeedsKept, feedsLead_cons, feedsLead_cons, feedsLead_cons]
    exact ⟨fun h => absurd h (by decide), fun _ _ => .inl rfl, fun _ h => absurd rfl h,
      feedsLead_nil⟩
  -- piece by piece: the fixed texts have one feed, and the comment of the plan follows it
  have hfeed : ∀ more, FeedsKept ('\n' :: ("// Tracking plan: ".toList ++ more)) ↔
      FeedsKept more := by
    intro more
    rw [FeedsKept, feedsLead_cons, ← FeedsKept, feedsKept_of_no_feed (by decide)]
    exact and_iff_right fun _ _ => hplan more
  rw [forall_lines_iff (opensComment_header o s), toList_header,
    feedsKept_of_no_feed (by decide), feedsKept_append (hnotice.append _),
    feedsKept_of_no_feed (by decide), hfeed, feedsKept_append (hid.append _),
    feedsKept_of_no_feed (by decide), feedsKept_append (hversion.append _),
    feedsKept_of_no_feed (by decide), feedsKept_of_no_feed (feed_not_mem_toString _),
    and_iff_left hend]

end TrackingPlan.Bindings
