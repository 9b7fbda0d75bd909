import TrackingPlan.Bindings.File
import TrackingPlan.Proofs.Bindings.Defaults
import TrackingPlan.Proofs.Bindings.EmittedNames
import TrackingPlan.Proofs.Bindings.Generates
import TrackingPlan.Proofs.Bindings.Header
import TrackingPlan.Proofs.Bindings.Lexemes
import TrackingPlan.Proofs.Bindings.Numerals

/-!
# The text of a plan in the file of bindings

After the header the file is its items, token by token, and each token keeps what it holds: a name
is read as one identifier, a quoted text as one literal that stands for it, a number as itself, and
all else is fixed (`Contained`).  The header alone takes texts as they are, and keeps them in
comments only if they let it (`generated_file_contained`).

§1 tokens in their places · §2 the items · §3 the file.
-/

namespace TrackingPlan.Bindings

/-! ## §1 Tokens in their places -/

/-- **A token keeps what it holds** before this text: it is fixed, or read as what it was written
for. -/
inductive Contained (rt : RuntimePath) : Token → List Char → Prop
  | fixed {t : Token} {rest : List Char} : InVocabulary t → Contained rt t rest
  | library {t : Token} {rest : List Char} : t ∈ leavesOf rt → Contained rt t rest
  | identifier {i j : Identifier} {rest : List Char} : j.text = i.text →
      Lexeme.single? (i.text.toList ++ rest) = some (.ident j, rest) →
      Contained rt (.ident i) rest
  | quoted {s : String} {rest : List Char} :
      Lexeme.single? ((quote s).toList ++ rest) = some (.literal (quote s), rest) →
      quotedValue? (quote s).toList = some s → Contained rt (.quoted s) rest
  | int64 {n : Int64} {rest : List Char} :
      NumeralValue (Token.int64 n).text.toList (Json.ofInt64 n) → Contained rt (.int64 n) rest
  | float64 {x : Binary64} {rest : List Char} :
      (x.isFinite = true → NumeralValue (Token.float64 x).text.toList (.number (.float x))) →
      Contained rt (.float64 x) rest

/-- **What emitted code may hold keeps what it holds**, wherever it stands. -/
theorem fitsBefore_of_admitted {rt : RuntimePath} {t : Token}
    (h : Admitted rt (IsIdentifier ·.text) t) :
    FitsBefore (Contained rt) t := by
  intro rest hends
  cases h with
  | fixed ht => exact .fixed ht
  | library ht => exact .library ht
  | @identifier i hi =>
    obtain ⟨j, hj⟩ := Option.isSome_iff_exists.mp hi
    exact .identifier (Identifier.text_of_ofText? hj) (single?_identifier hj (hends rfl))
  | quoted s => exact .quoted (single?_quote s (hends rfl)) (quotedValue?_quote s)
  | int64 n => exact .int64 (numeralValue_int64 n)
  | float64 x => exact .float64 numeralValue_float64

/-! ## §2 The items -/

/-- **The text of the items**, an empty line between them. -/
def itemsText (rt : RuntimePath) (items : List Item) : String :=
  "\n\n".intercalate (items.map (·.text rt)) ++ "\n"

theorem itemsText_cons_cons (rt : RuntimePath) (i j : Item) (items : List Item) :
    itemsText rt (i :: j :: items) = i.text rt ++ "\n\n" ++ itemsText rt (j :: items) := by
  simp only [itemsText, List.map_cons, String.intercalate_cons_cons, String.append_assoc]

theorem endsToken_feed (cs : List Char) : EndsToken ('\n' :: cs) :=
  endsToken_cons (by decide) cs

theorem Reads.feed {C : Token → List Char → Prop} {ts : List Token} {cs rest : List Char}
    (h : Reads C ts cs rest) : Reads C ts ('\n' :: cs) rest :=
  .blank (by decide) h

/-- **The text of items is read token by token**, the items in order. -/
theorem reads_items {C : Token → List Char → Prop} {rt : RuntimePath} {items : List Item}
    (hC : ∀ i ∈ items, AllLeaves (FitsBefore C) (i.tokens rt)) :
    Reads C (items.flatMap (·.tokens rt)) (itemsText rt items).toList [] := by
  induction items with
  | nil =>
    have htext : (itemsText rt []).toList = ['\n'] := by simp [itemsText]
    rw [htext]
    exact Reads.nil.feed
  | cons i items ih =>
    obtain ⟨hi, hitems⟩ := List.forall_mem_cons.mp hC
    cases items with
    | nil =>
      have htext : (itemsText rt [i]).toList = (tokensText (i.tokens rt)).toList ++ ['\n'] := by
        simp [itemsText, Item.text]
      rw [htext]
      exact (reads_tokens _ hi (endsToken_feed [])).append Reads.nil.feed
    | cons j items =>
      have htext : (itemsText rt (i :: j :: items)).toList = (tokensText (i.tokens rt)).toList ++
          '\n' :: '\n' :: (itemsText rt (j :: items)).toList := by
        rw [itemsText_cons_cons]
        simp [Item.text]
      rw [htext]
      exact (reads_tokens _ hi (endsToken_feed _)).append (ih hitems).feed.feed

/-! ## §3 The file -/

/-- The path of the library is that of the options. -/
theorem runtime_of_emit {o : Options} {s : Schema} {e : Emitted} (h : emit o s = .ok e) :
    o.runtime = .ok e.runtime := by
  obtain ⟨R, h⟩ := Emit.start_eq_ok_iff.mp h
  obtain ⟨runtime, r, hruntime, h⟩ := Emit.gives_bind_iff.mp h
  obtain ⟨haccepted, rfl⟩ := Emit.gives_accept_iff.mp hruntime
  -- the name of the client, its claim, the layouts, the items and the wrapper
  obtain ⟨_, _, -, h⟩ := Emit.gives_bind_iff.mp h
  obtain ⟨_, _, -, h⟩ := Emit.gives_bind_iff.mp h
  obtain ⟨_, _, -, h⟩ := Emit.gives_bind_iff.mp h
  obtain ⟨_, _, -, h⟩ := Emit.gives_bind_iff.mp h
  obtain ⟨_, _, -, h⟩ := Emit.gives_bind_iff.mp h
  obtain ⟨rfl, -⟩ := Emit.gives_pure_iff.mp h
  exact haccepted

theorem generate_eq_ok_iff {o : Options} {s : Schema} {out : Output} :
    generate o s = .ok out ↔ ∃ e, emit o s = .ok e ∧
      out = ⟨[⟨⟨o.fileName⟩, header o s ++ itemsText e.runtime e.items⟩], e.counts⟩ := by
  unfold generate
  cases emit o s with
  | error error => exact iff_of_false (fun h => by cases h) (fun ⟨_, h, _⟩ => by cases h)
  | ok e =>
    have hcontent : header o s ++ "\n\n".intercalate (e.items.map (·.text e.runtime)) ++ "\n" =
        header o s ++ itemsText e.runtime e.items := String.append_assoc ..
    constructor
    · intro h
      obtain rfl := Except.ok.inj h
      exact ⟨e, rfl, by rw [hcontent]⟩
    · rintro ⟨_, he, rfl⟩
      obtain rfl := Except.ok.inj he
      rw [← hcontent]
      rfl

/-- The header ends in a line feed, so the items begin on a line of their own. -/
theorem lines_header_append (o : Options) (s : Schema) (more : String) :
    Text.lines (header o s ++ more) = Text.lines (header o s) ++ Text.lines more := by
  obtain ⟨before, hbefore⟩ : ∃ before : String, header o s = before ++ ")\n\n" := ⟨_, rfl⟩
  have hfeed : (header o s).toList = (before.toList ++ [')', '\n']) ++ ['\n'] := by
    rw [hbefore, String.toList_append, List.append_assoc]
    rfl
  rw [Text.lines, Text.lines, Text.lines, String.toList_append, hfeed, List.append_assoc,
    List.singleton_append, Text.linesFrom_append, List.map_append]

/-- **The file is a header and the items.**  Its first lines, up to the items, are comments or empty
exactly if the version of the generator, the name of the plan and its id stay in their comments.
The rest is the tokens of the items, and none lets out what it holds. -/
theorem generated_file_contained {o : Options} {s : Schema} {out : Output}
    (h : generate o s = .ok out) :
    ∃ e, emit o s = .ok e ∧ o.runtime = .ok e.runtime ∧
      out.files = [⟨⟨o.fileName⟩, header o s ++ itemsText e.runtime e.items⟩] ∧
      Text.lines (header o s ++ itemsText e.runtime e.items) =
        Text.lines (header o s) ++ Text.lines (itemsText e.runtime e.items) ∧
      ((∀ line ∈ Text.lines (header o s), IsCommentLine line) ↔
        KeepsComment o.generatorVersion.toList ∧ KeepsComment s.name.toList ∧
          KeepsComment (o.metadataFor s).planId.toList) ∧
      Reads (Contained e.runtime) (e.items.flatMap (·.tokens e.runtime))
        (itemsText e.runtime e.items).toList [] := by
  obtain ⟨e, he, rfl⟩ := generate_eq_ok_iff.mp h
  have hadmitted : ∀ i ∈ e.items, AllLeaves (FitsBefore (Contained e.runtime))
      (i.tokens e.runtime) := fun i hi u hu =>
    fitsBefore_of_admitted (admitted_item (Emit.areIdentifiers_of_emit he i hi) u hu)
  exact ⟨e, he, runtime_of_emit he, rfl, lines_header_append o s _, header_comments_iff,
    reads_items hadmitted⟩

/-- A plan whose name goes on in a comment of its own. -/
def notedPlan : Schema where
  name := "Shop\n// for \"all\""
  metadata := .unknown
  customTypes := []
  properties := []
  rules := []

/-- The header of the noted plan is all comments, and its name stands in a quoted text too. -/
theorem generated_file_contained_noted : ∃ out e, generate {} notedPlan = .ok out ∧
    emit {} notedPlan = .ok e ∧
    out.files = [⟨⟨"typed_analytics.rs"⟩, header {} notedPlan ++ itemsText e.runtime e.items⟩] ∧
    (∀ line ∈ Text.lines (header {} notedPlan), IsCommentLine line) ∧
    Reads (Contained e.runtime) (e.items.flatMap (·.tokens e.runtime))
      (itemsText e.runtime e.items).toList [] := by
  obtain ⟨e, he⟩ : ∃ e, emit {} notedPlan = .ok e := exists_emit_default (by decide +kernel)
  have hout := generate_eq_ok_iff.mpr ⟨e, he, rfl⟩
  obtain ⟨e', he', -, hfiles, -, hlines, hreads⟩ := generated_file_contained hout
  obtain rfl := Except.ok.inj (he.symm.trans he')
  exact ⟨_, e, hout, he, hfiles, hlines.mpr ⟨by decide, by decide, by decide⟩, hreads⟩

/-- A plan whose name goes on without a comment. -/
def escapingPlan : Schema where
  name := "a\nfn evil() \x7b\x7d"
  metadata := .unknown
  customTypes := []
  properties := []
  rules := []

/-- **A name lets a line out of the header**: the second line of the name is code. -/
theorem header_lets_out : ∃ out content, generate {} escapingPlan = .ok out ∧
    out.files = [⟨⟨"typed_analytics.rs"⟩, header {} escapingPlan ++ content⟩] ∧
    "fn evil() \x7b\x7d ( v0)" ∈ Text.lines (header {} escapingPlan) ∧
    ¬IsCommentLine "fn evil() \x7b\x7d ( v0)" := by
  obtain ⟨e, he⟩ : ∃ e, emit {} escapingPlan = .ok e := exists_emit_default (by decide +kernel)
  exact ⟨_, _, generate_eq_ok_iff.mpr ⟨e, he, rfl⟩, rfl, by decide +kernel, by decide⟩

end TrackingPlan.Bindings
