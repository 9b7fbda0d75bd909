import TrackingPlan.Files.System
import Mathlib.Data.List.Infix

/-!
# Where a path leads

The parts of a path are what slashes set off in its text (`mem_parts_iff`).  Those that say
something are its names, and the names alone tell where the path leads when all that is on the way
is there (`location`).  Joining puts names behind names, so a path without `..` leads to a place
below the directory that it is joined to (`location_join`), and the parent of a path has the first
of its names (`names_prefix_of_parent?`).

§1 parts · §2 names · §3 joining · §4 parents.
-/

namespace TrackingPlan.Path

open Files (Location)

/-! ## §1 Parts -/

/-- The parts of a text. -/
def partsOf (cs : List Char) : List String :=
  (partsFrom [] cs).map String.ofList

/-- **A part stands in a path**: at each side of it is a slash or an end of the path. -/
def HasPart (p : Path) (part : String) : Prop :=
  ∃ before after : List Char, p.text.toList = before ++ (part.toList ++ after) ∧
    (before = [] ∨ before.getLast? = some '/') ∧ (after = [] ∨ after.head? = some '/')

variable {p q base : Path} {xs ys current cs w : List Char} {part : String}

theorem isEmpty_iff : p.isEmpty = true ↔ p.text = "" :=
  String.isEmpty_iff

theorem isAbsolute_iff : p.isAbsolute = true ↔ p.text.toList.head? = some '/' :=
  beq_iff_eq

theorem partsFrom_eq_splitOn : ∀ {current}, partsFrom current cs =
    cs.splitOnPPrepend (· == '/') current := by
  induction cs with
  | nil => exact rfl
  | cons c rest ih =>
    intro current
    rw [partsFrom, List.splitOnPPrepend_cons_eq_if, List.splitOnP_eq_splitOnPPrepend, ih, ih]

theorem partsOf_eq_splitOn (cs : List Char) : partsOf cs = (cs.splitOn '/').map String.ofList := by
  rw [partsOf, partsFrom_eq_splitOn]
  rfl

theorem partsOf_nil : partsOf [] = [""] :=
  rfl

/-- **A slash sets parts apart.** -/
theorem partsOf_append (xs ys : List Char) : partsOf (xs ++ '/' :: ys) =
    partsOf xs ++ partsOf ys := by
  simp only [partsOf_eq_splitOn, List.splitOn_append_cons_self, List.map_append]

theorem partsOf_ne_nil (cs : List Char) : partsOf cs ≠ [] := by
  rw [partsOf_eq_splitOn]
  simp only [ne_eq, List.map_eq_nil_iff, List.splitOn_ne_nil, not_false_eq_true]

theorem parts_ne_nil (p : Path) : p.parts ≠ [] :=
  partsOf_ne_nil p.text.toList

theorem slash_not_mem_of_mem_partsFrom (h : '/' ∉ current) :
    ∀ w ∈ partsFrom current cs, '/' ∉ w := by
  fun_induction partsFrom current cs with
  | case1 current => exact List.forall_mem_singleton.mpr (by rwa [List.mem_reverse])
  | case2 current c rest _ ih =>
    exact List.forall_mem_cons.mpr ⟨by rwa [List.mem_reverse], ih List.not_mem_nil⟩
  | case3 current c rest hc ih =>
    refine ih fun hmem => ?_
    rcases List.mem_cons.mp hmem with rfl | hmem
    · exact hc (beq_self_eq_true _)
    · exact h hmem

theorem slash_not_mem_of_mem_partsOf (h : part ∈ partsOf cs) : '/' ∉ part.toList := by
  obtain ⟨w, hw, rfl⟩ := List.mem_map.mp h
  rw [String.toList_ofList]
  exact slash_not_mem_of_mem_partsFrom List.not_mem_nil w hw

theorem exists_around_of_mem_partsFrom : ∀ w ∈ partsFrom current cs, ∃ before after : List Char,
    current.reverse ++ cs = before ++ (w ++ after) ∧
      (before = [] ∨ before.getLast? = some '/') ∧ (after = [] ∨ after.head? = some '/') := by
  fun_induction partsFrom current cs with
  | case1 current =>
    exact List.forall_mem_singleton.mpr ⟨[], [], rfl, .inl rfl, .inl rfl⟩
  | case2 current c rest hc ih =>
    obtain rfl := eq_of_beq hc
    refine List.forall_mem_cons.mpr ⟨⟨[], '/' :: rest, rfl, .inl rfl, .inr rfl⟩, fun w hw => ?_⟩
    obtain ⟨before, after, heq, hbefore, hafter⟩ := ih w hw
    refine ⟨current.reverse ++ '/' :: before, after, ?_, .inr ?_, hafter⟩
    · rw [List.append_assoc, List.cons_append, ← heq]
      rfl
    · rw [List.getLast?_append, List.getLast?_cons, Option.some_or]
      rcases hbefore with rfl | hbefore
      · rfl
      · rw [hbefore]
        rfl
  | case3 current c rest hc ih =>
    rw [List.reverse_cons, List.append_assoc] at ih
    exact ih

/-- **The parts of a path are what slashes set off in it.** -/
theorem mem_parts_iff : part ∈ p.parts ↔ '/' ∉ part.toList ∧ p.HasPart part := by
  constructor
  · intro h
    refine ⟨slash_not_mem_of_mem_partsOf h, ?_⟩
    obtain ⟨w, hw, rfl⟩ := List.mem_map.mp h
    rw [HasPart, String.toList_ofList]
    exact exists_around_of_mem_partsFrom w hw
  · rintro ⟨hslash, before, after, heq, hbefore, hafter⟩
    have hfirst : part ∈ partsOf (part.toList ++ after) := by
      have hself : partsOf part.toList = [part] := by
        rw [partsOf_eq_splitOn, List.splitOn_eq_singleton hslash, List.map_singleton,
          String.ofList_toList]
      rcases hafter with rfl | hafter
      · rw [List.append_nil, hself]
        exact List.mem_singleton_self part
      · obtain ⟨more, rfl⟩ := List.head?_eq_some_iff.mp hafter
        rw [partsOf_append, hself]
        exact List.mem_cons_self
    show part ∈ partsOf p.text.toList
    rw [heq]
    rcases hbefore with rfl | hbefore
    · exact hfirst
    · obtain ⟨more, rfl⟩ := List.getLast?_eq_some_iff.mp hbefore
      rw [List.append_assoc, List.singleton_append, partsOf_append]
      exact List.mem_append_right _ hfirst

theorem climbs_iff : p.climbs = true ↔ p.HasPart up := by
  rw [climbs, List.contains_iff_mem, mem_parts_iff]
  exact and_iff_right (by decide)

/-! ## §2 Names -/

/-- Whether a part says something: it is neither empty nor a single dot. -/
def isName (part : String) : Bool :=
  !(part.isEmpty || part == ".")

/-- **The names of a path**: the parts that say something, in order. -/
def names (p : Path) : List String :=
  p.parts.filter isName

/-- Goes from a location where a name leads. -/
def enter (here : Location) (name : String) : Location :=
  if name = up then here.tail else name :: here

/-- **Where a path leads**, if all that is on the way is there. -/
def location (p : Path) : Location :=
  p.names.foldl enter []

/-- **A path passes a location** if some of its names, from the first on, lead there. -/
def Passes (p : Path) (l : Location) : Prop :=
  ∃ first, first <+: p.names ∧ l = first.foldl enter []

theorem Passes.mono {l : Location} (h : q.Passes l) (hnames : q.names <+: p.names) :
    p.Passes l := by
  obtain ⟨first, hfirst, rfl⟩ := h
  exact ⟨first, hfirst.trans hnames, rfl⟩

theorem passes_location (p : Path) : p.Passes p.location :=
  ⟨p.names, List.prefix_refl _, rfl⟩

/-- **Names that do not lead out lead further in.** -/
theorem foldl_enter {names : List String} (h : up ∉ names) : ∀ here : Location,
    names.foldl enter here = names.reverse ++ here := by
  induction names with
  | nil => exact fun _ => rfl
  | cons name rest ih =>
    intro here
    rw [List.mem_cons, not_or] at h
    rw [List.foldl_cons, enter, if_neg (Ne.symm h.1), ih h.2, List.reverse_cons, List.append_assoc]
    rfl

theorem up_not_mem_names (h : up ∉ p.parts) : up ∉ p.names :=
  fun hmem => h (List.mem_of_mem_filter hmem)

/-! ## §3 Joining -/

/-- **What joining makes of two texts**: a slash stands between them, which may be the last
character of the first. -/
theorem exists_stem (hbase : base.isEmpty = false) (hp : p.isAbsolute = false) :
    ∃ stem, (base.join p).text.toList = stem ++ '/' :: p.text.toList ∧
      (base.text.toList = stem ∨ base.text.toList = stem ++ ['/']) := by
  unfold join
  rw [hp, hbase]
  simp only [Bool.or_self, Bool.false_eq_true, if_false]
  split
  · rename_i hslash
    obtain ⟨stem, hstem⟩ := List.getLast?_eq_some_iff.mp (eq_of_beq hslash)
    refine ⟨stem, ?_, .inr hstem⟩
    rw [String.toList_append, hstem, List.append_assoc, List.singleton_append]
  · refine ⟨base.text.toList, ?_, .inl rfl⟩
    rw [String.toList_append, String.toList_append, List.append_assoc]
    rfl

/-- What is joined begins with what it is joined to. -/
theorem exists_text_join (hbase : base.isEmpty = false) (hp : p.isAbsolute = false) :
    ∃ more, (base.join p).text = base.text ++ more := by
  unfold join
  rw [hp, hbase]
  simp only [Bool.or_self, Bool.false_eq_true, if_false]
  split
  · exact ⟨p.text, rfl⟩
  · exact ⟨"/" ++ p.text, String.append_assoc⟩

/-- The parts that are joined stand behind those before the slash. -/
theorem parts_of_stem {stem : List Char} (h : q.text.toList = stem ++ '/' :: p.text.toList) :
    q.parts = partsOf stem ++ p.parts := by
  show partsOf q.text.toList = _
  rw [h, partsOf_append]
  rfl

theorem names_join (hbase : base.isEmpty = false) (hp : p.isAbsolute = false) :
    (base.join p).names = base.names ++ p.names := by
  obtain ⟨stem, hjoin, hstem⟩ := exists_stem hbase hp
  have hnames : base.names = (partsOf stem).filter isName := by
    show (partsOf base.text.toList).filter isName = _
    rcases hstem with hstem | hstem
    · rw [hstem]
    · rw [hstem, partsOf_append, List.filter_append, partsOf_nil]
      exact List.append_nil _
  rw [names, parts_of_stem hjoin, List.filter_append, hnames]
  rfl

/-- **A path without `..` leads below the directory that it is joined to.** -/
theorem location_join (hbase : base.isEmpty = false) (hp : p.isAbsolute = false)
    (hup : up ∉ p.parts) : (base.join p).location = p.location ++ base.location := by
  have hnames := foldl_enter (up_not_mem_names hup)
  rw [location, names_join hbase hp, List.foldl_append, hnames, location, hnames, List.append_nil]
  rfl

/-! ## §4 Parents -/

theorem dropSilent_suffix (absolute : Bool) (parts : List String) :
    dropSilent absolute parts <:+ parts := by
  induction parts with
  | nil => exact List.suffix_refl _
  | cons part rest ih =>
    rw [dropSilent]
    split
    · exact ih.trans (List.suffix_cons part rest)
    · exact List.suffix_refl _

/-- What is dropped says nothing. -/
theorem filter_dropSilent (absolute : Bool) (parts : List String) :
    (dropSilent absolute parts).filter isName = parts.filter isName := by
  induction parts with
  | nil => rfl
  | cons part rest ih =>
    rw [dropSilent]
    split
    · rename_i hsilent
      have hname : isName part = false := by
        rw [isName, Bool.not_eq_false']
        rcases Bool.or_eq_true_iff.mp hsilent with h | h
        · rw [h, Bool.true_or]
        · rw [(Bool.and_eq_true_iff.mp h).1, Bool.or_true]
      rw [ih, List.filter_cons_of_neg (by rw [hname]; decide)]
    · rfl

theorem names_ofReversedParts {parts : List String} (absolute : Bool)
    (h : ∀ part ∈ parts, '/' ∉ part.toList) :
    (ofReversedParts absolute parts).names = (parts.filter isName).reverse := by
  have hjoined : (partsOf (['/'].intercalate (parts.reverse.map String.toList))).filter isName =
      (parts.filter isName).reverse := by
    rw [← List.filter_reverse]
    cases hparts : parts.reverse with
    | nil => rfl
    | cons first rest =>
      have hslash : ∀ w ∈ (first :: rest).map String.toList, '/' ∉ w := by
        intro w hw
        obtain ⟨part, hpart, rfl⟩ := List.mem_map.mp hw
        rw [← hparts, List.mem_reverse] at hpart
        exact h part hpart
      rw [partsOf_eq_splitOn, List.splitOn_intercalate '/' hslash (List.cons_ne_nil _ _)]
      simp only [List.map_map, List.map_id', Function.comp_def, String.ofList_toList]
  show (partsOf (ofReversedParts absolute parts).text.toList).filter isName = _
  rw [ofReversedParts, String.toList_append, String.toList_intercalate, ← hjoined]
  cases absolute with
  | false => rfl
  | true =>
    show (partsOf ([] ++ '/' :: _)).filter isName = _
    rw [partsOf_append, List.filter_append, partsOf_nil]
    rfl

/-- The parts behind the slash of an absolute path have all its names. -/
theorem filter_drop_of_isAbsolute (h : p.isAbsolute = true) :
    (p.parts.drop 1).filter isName = p.names := by
  obtain ⟨rest, hrest⟩ := List.head?_eq_some_iff.mp (isAbsolute_iff.mp h)
  have hparts : p.parts = "" :: partsOf rest := by
    show partsOf p.text.toList = _
    rw [hrest]
    exact partsOf_append [] rest
  rw [names, hparts]
  rfl

/-- **The parent of a path has the first of its names.** -/
theorem names_prefix_of_parent? (h : p.parent? = some q) : q.names <+: p.names := by
  have hparts : ∃ parts ⊆ p.parts, parts.filter isName = p.names ∧ ∃ part rest,
      dropSilent p.isAbsolute parts.reverse = part :: rest ∧
        ofReversedParts p.isAbsolute (dropSilent p.isAbsolute rest) = q := by
    refine ⟨if p.isAbsolute then p.parts.drop 1 else p.parts, ?_, ?_, ?_⟩
    · split
      · exact List.drop_subset 1 p.parts
      · exact List.Subset.refl _
    · split
      · rename_i habsolute
        exact filter_drop_of_isAbsolute habsolute
      · rfl
    · unfold parent? at h
      dsimp only at h
      split at h
      · cases h
      · rename_i part rest hdrop
        exact ⟨part, rest, hdrop, Option.some.inj h⟩
  obtain ⟨parts, hsubset, hnames, part, rest, hdrop, rfl⟩ := hparts
  have hslash : ∀ other ∈ dropSilent p.isAbsolute rest, '/' ∉ other.toList := by
    intro other hother
    have hrest : other ∈ dropSilent p.isAbsolute parts.reverse :=
      hdrop ▸ List.mem_cons_of_mem part ((dropSilent_suffix _ rest).subset hother)
    have hmem : other ∈ parts := List.mem_reverse.mp ((dropSilent_suffix _ _).subset hrest)
    exact slash_not_mem_of_mem_partsOf (hsubset hmem)
  rw [names_ofReversedParts _ hslash, filter_dropSilent, ← hnames, ← List.reverse_reverse parts,
    List.filter_reverse, ← filter_dropSilent p.isAbsolute parts.reverse, hdrop, List.reverse_prefix]
  exact (List.suffix_cons part rest).filter isName

end TrackingPlan.Path
