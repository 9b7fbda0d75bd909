import TrackingPlan.Bindings.Lexeme
import TrackingPlan.Bindings.Token
import Mathlib.Data.List.Basic

/-!
# The text of tokens holds the tokens, and nothing else

Read from the left, the text of a list of tokens is the tokens in order, each spelled out, with
white space between them and brackets around groups (`Reads`).  Whatever a token's text has to be
told apart from, it has only to be so before white space, a closing bracket or the end of the text:
one of these follows every token but a tight one (`reads_tokensText`).

§1 tokens without groups · §2 reading tokens · §3 the text of tokens.
-/

namespace TrackingPlan.Bindings

/-! ## §1 Tokens without groups -/

mutual
/-- The tokens that a token is made of: those of its body for a group. -/
def Token.leaves : Token → List Token
  | .group _ body => leavesOf body
  | .word text => [.word text]
  | .mark text => [.mark text]
  | .tight text => [.tight text]
  | .ident name => [.ident name]
  | .quoted text => [.quoted text]
  | .doc text => [.doc text]
  | .int64 value => [.int64 value]
  | .float64 value => [.float64 value]
termination_by structural t => t

/-- **The tokens within tokens**, groups taken apart. -/
def leavesOf : List Token → List Token
  | [] => []
  | t :: rest => t.leaves ++ leavesOf rest
termination_by structural ts => ts
end

/-- Whether the token is a group. -/
def Token.isGroup : Token → Bool
  | .group _ _ => true
  | _ => false

theorem Token.leaves_of_not_group {t : Token} (h : t.isGroup = false) : t.leaves = [t] := by
  cases t <;> first | rfl | cases h

/-- All tokens within a token have a property. -/
def Token.Holds (P : Token → Prop) (t : Token) : Prop :=
  ∀ u ∈ t.leaves, P u

/-- **All tokens within tokens have a property.** -/
def AllLeaves (P : Token → Prop) (ts : List Token) : Prop :=
  ∀ u ∈ leavesOf ts, P u

section AllLeaves

variable {P : Token → Prop}

@[simp]
theorem allLeaves_nil : AllLeaves P [] :=
  fun _ h => absurd h List.not_mem_nil

@[simp]
theorem allLeaves_cons {t : Token} {ts : List Token} :
    AllLeaves P (t :: ts) ↔ t.Holds P ∧ AllLeaves P ts := by
  unfold AllLeaves
  rw [leavesOf]
  exact List.forall_mem_append

theorem Token.holds_of_not_group {t : Token} (h : t.isGroup = false) : t.Holds P ↔ P t := by
  rw [Token.Holds, Token.leaves_of_not_group h, List.forall_mem_singleton]

@[simp]
theorem Token.holds_group {d : Delimiter} {body : List Token} :
    (Token.group d body).Holds P ↔ AllLeaves P body :=
  Iff.rfl

theorem allLeaves_iff {ts : List Token} : AllLeaves P ts ↔ ∀ t ∈ ts, t.Holds P := by
  induction ts with
  | nil => simp
  | cons t ts ih => rw [allLeaves_cons, List.forall_mem_cons, ih]

@[simp]
theorem allLeaves_append {ts us : List Token} :
    AllLeaves P (ts ++ us) ↔ AllLeaves P ts ∧ AllLeaves P us := by
  rw [allLeaves_iff, allLeaves_iff, allLeaves_iff, List.forall_mem_append]

@[simp]
theorem allLeaves_flatMap {α : Type} {f : α → List Token} {xs : List α} :
    AllLeaves P (xs.flatMap f) ↔ ∀ x ∈ xs, AllLeaves P (f x) := by
  simp only [allLeaves_iff, List.forall_mem_flatMap]

end AllLeaves

/-! ## §2 Reading tokens -/

/-- The bracket that opens a group. -/
def Delimiter.opening : Delimiter → Char
  | .round => '('
  | .square => '['
  | .brace => '\x7b'

/-- The bracket that closes a group. -/
def Delimiter.closing : Delimiter → Char
  | .round => ')'
  | .square => ']'
  | .brace => '\x7d'

/-- **The tokens stand at the head of a text**, in order: white space may stand before each and
after the last, a group stands in its brackets, and any other token is spelled out.  `C` is what has
to hold of such a token and the text after it. -/
inductive Reads (C : Token → List Char → Prop) : List Token → List Char → List Char → Prop
  | nil {rest : List Char} : Reads C [] rest rest
  | blank {ts : List Token} {c : Char} {cs rest : List Char} :
      Text.isBlank c = true → Reads C ts cs rest → Reads C ts (c :: cs) rest
  | leaf {t : Token} {ts : List Token} {cs rest : List Char} :
      t.isGroup = false → C t cs → Reads C ts cs rest → Reads C (t :: ts) (t.text.toList ++ cs) rest
  | group {d : Delimiter} {body ts : List Token} {cs mid rest : List Char} :
      Reads C body cs (d.closing :: mid) → Reads C ts mid rest →
      Reads C (.group d body :: ts) (d.opening :: cs) rest

theorem Reads.append {C : Token → List Char → Prop} {ts us : List Token} {cs mid rest : List Char}
    (h : Reads C ts cs mid) (h' : Reads C us mid rest) : Reads C (ts ++ us) cs rest := by
  induction h with
  | nil => exact h'
  | blank hc _ ih => exact .blank hc (ih h')
  | leaf hleaf hC _ ih => exact .leaf hleaf hC (ih h')
  | group hbody _ _ ih => exact .group hbody (ih h')

/-- What may stand after a token: a blank or a line feed, or the end of a group. -/
def tokenEnds : List Char :=
  [' ', '\n', ')', ']', '\x7d']

/-- The text before which a token stands ends it: it begins so, or there is none. -/
def EndsToken (cs : List Char) : Prop :=
  ∀ c, cs.head? = some c → c ∈ tokenEnds

theorem endsToken_cons {c : Char} (h : c ∈ tokenEnds) (cs : List Char) : EndsToken (c :: cs) := by
  intro d hd
  obtain rfl := Option.some.inj hd
  exact h

theorem closing_mem_tokenEnds (d : Delimiter) : d.closing ∈ tokenEnds := by
  cases d <;> decide

/-! ## §3 The text of tokens -/

theorem tokenTexts_eq_nil_iff {ts : List Token} : tokenTexts ts = [] ↔ ts = [] := by
  cases ts with
  | nil => simp [tokenTexts]
  | cons t ts =>
    rw [tokenTexts]
    split
    · cases tokenTexts ts <;> simp [putBefore]
    · simp

theorem intercalate_putBefore (sep text : String) (texts : List String) :
    sep.intercalate (putBefore text texts) = text ++ sep.intercalate texts := by
  cases texts with
  | nil => simp [putBefore]
  | cons next rest =>
    cases rest with
    | nil => simp [putBefore]
    | cons next' rest => simp [putBefore, String.intercalate_cons_cons, String.append_assoc]

/-- What stands between a token and the others. -/
def gapAfter (t : Token) (others : List Token) : List Char :=
  if t.isTight || others.isEmpty then [] else [' ']

/-- Blanks that stand beside tokens. -/
def IsPadding (cs : List Char) : Prop :=
  ∀ c ∈ cs, c = ' '

theorem isPadding_nil : IsPadding [] :=
  fun _ h => absurd h List.not_mem_nil

theorem isPadding_blank : IsPadding [' '] :=
  fun _ => List.mem_singleton.mp

theorem isPadding_gapAfter (t : Token) (others : List Token) : IsPadding (gapAfter t others) := by
  unfold gapAfter
  split
  · exact isPadding_nil
  · exact isPadding_blank

/-- The text of the first token comes first. -/
theorem toList_tokensText_cons (t : Token) (ts : List Token) :
    (tokensText (t :: ts)).toList = t.text.toList ++ gapAfter t ts ++ (tokensText ts).toList := by
  unfold tokensText gapAfter
  rw [tokenTexts]
  cases ht : t.isTight with
  | true => simp [intercalate_putBefore]
  | false =>
    cases ts with
    | nil => simp [tokenTexts]
    | cons u ts =>
      have hne : tokenTexts (u :: ts) ≠ [] := mt tokenTexts_eq_nil_iff.mp (List.cons_ne_nil u ts)
      simp [String.intercalate_cons_of_ne_nil hne]

theorem toList_wrap (d : Delimiter) (inner : String) :
    ∃ before after : List Char, IsPadding before ∧ IsPadding after ∧
      (d.wrap inner).toList = d.opening :: (before ++ inner.toList ++ after ++ [d.closing]) := by
  cases d with
  | round =>
    exact ⟨[], [], isPadding_nil, isPadding_nil, by
      simp [Delimiter.wrap, Delimiter.opening, Delimiter.closing]⟩
  | square =>
    exact ⟨[], [], isPadding_nil, isPadding_nil, by
      simp [Delimiter.wrap, Delimiter.opening, Delimiter.closing]⟩
  | brace =>
    by_cases hempty : inner = ""
    · subst hempty
      exact ⟨[' '], [], isPadding_blank, isPadding_nil, rfl⟩
    · have hwrap : Delimiter.brace.wrap inner = "\x7b " ++ inner ++ " \x7d" := by
        simp [Delimiter.wrap, String.isEmpty_iff, hempty]
      exact ⟨[' '], [' '], isPadding_blank, isPadding_blank, by
        rw [hwrap]
        simp [Delimiter.opening, Delimiter.closing]⟩

theorem Reads.padding {C : Token → List Char → Prop} {ts : List Token} {cs rest : List Char}
    (h : Reads C ts cs rest) {blanks : List Char} (hblanks : IsPadding blanks) :
    Reads C ts (blanks ++ cs) rest := by
  induction blanks with
  | nil => exact h
  | cons c blanks ih =>
    obtain ⟨rfl, hrest⟩ := List.forall_mem_cons.mp hblanks
    exact .blank (by decide) (ih hrest)

theorem endsToken_padding {blanks cs : List Char} (hblanks : IsPadding blanks)
    (h : EndsToken cs) : EndsToken (blanks ++ cs) := by
  cases blanks with
  | nil => exact h
  | cons c blanks =>
    obtain rfl := hblanks c List.mem_cons_self
    exact endsToken_cons (by decide) _

section Text

variable {C : Token → List Char → Prop}

/-- **The token is told apart from what may follow it**: anything if it is tight, and else what ends
a token. -/
def FitsBefore (C : Token → List Char → Prop) (t : Token) : Prop :=
  ∀ cs, (t.isTight = false → EndsToken cs) → C t cs

mutual
/-- A token is read back from its text, whatever tokens come after it. -/
theorem reads_token (t : Token) {ts : List Token} {cs rest : List Char}
    (hC : t.Holds (FitsBefore C)) (hends : t.isTight = false → EndsToken cs)
    (h : Reads C ts cs rest) :
    Reads C (t :: ts) (t.text.toList ++ cs) rest := by
  cases t with
  | group d body =>
    obtain ⟨before, after, hbefore, hafter, hwrap⟩ := toList_wrap d (tokensText body)
    have hclose : Reads C [] (after ++ d.closing :: cs) (d.closing :: cs) :=
      Reads.nil.padding hafter
    have hfollow : EndsToken (after ++ d.closing :: cs) :=
      endsToken_padding hafter (endsToken_cons (closing_mem_tokenEnds d) cs)
    -- the body is read up to the blanks before the closing bracket
    have hbody := (reads_tokens body hC hfollow).append hclose
    rw [List.append_nil] at hbody
    have htext : (Token.group d body).text.toList ++ cs =
        d.opening :: (before ++ ((tokensText body).toList ++ (after ++ d.closing :: cs))) := by
      rw [Token.text, ← tokensText, hwrap]
      simp
    rw [htext]
    exact .group (hbody.padding hbefore) h
  | _ => exact .leaf rfl (hC _ (List.mem_singleton.mpr rfl) _ hends) h
termination_by structural t

/-- **Tokens are read back from their text**, before anything that ends a token. -/
theorem reads_tokens (ts : List Token) {rest : List Char}
    (hC : AllLeaves (FitsBefore C) ts) (hends : EndsToken rest) :
    Reads C ts ((tokensText ts).toList ++ rest) rest := by
  match ts with
  | [] => exact .nil
  | t :: ts =>
    obtain ⟨ht, hts⟩ := allLeaves_cons.mp hC
    have hrest := reads_tokens ts hts hends
    -- a blank follows every token but a tight one and the last, which `rest` follows
    have hfollow : t.isTight = false →
        EndsToken (gapAfter t ts ++ ((tokensText ts).toList ++ rest)) := by
      intro htight
      unfold gapAfter
      cases ts with
      | nil => simpa [htight, tokensText, tokenTexts] using hends
      | cons u ts =>
        simp only [htight, Bool.false_or, List.isEmpty_cons, Bool.false_eq_true, if_false]
        exact endsToken_cons (by decide) _
    rw [toList_tokensText_cons, List.append_assoc, List.append_assoc]
    exact reads_token t ht hfollow (hrest.padding (isPadding_gapAfter t ts))
termination_by structural ts
end

end Text

end TrackingPlan.Bindings
