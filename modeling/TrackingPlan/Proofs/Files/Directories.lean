import TrackingPlan.Proofs.Files.Paths
import TrackingPlan.Proofs.Steps

/-!
# Making directories takes nothing away

Where a path leads in a file system is told by its names alone, if it leads anywhere
(`eq_location_of_locate`), and a path that leads somewhere still does when no directory is gone
(`locate_of_keeps`).  Making directories keeps all that is there and puts directories where nothing
was, on the way to where the path leads (`adds_makeDirectories`).

§1 what is at a location · §2 following paths · §3 making directories.
-/

namespace TrackingPlan.Files

variable {l k here : Location} {n : Node} {nodes : List (Location × Node)} {parts : List String}
  {p base : Path} {P Q : Location → Prop}

/-! ## §1 What is at a location -/

/-- What is found after setting a node: at its location that node, and elsewhere what was there. -/
theorem find?_setNode (l : Location) (n : Node) (nodes : List (Location × Node)) :
    ((setNode l n nodes).find? (·.1 == k)).map (·.2) =
      if k = l then some n else (nodes.find? (·.1 == k)).map (·.2) := by
  have hbeq : ∀ j : Location, (j == k) = decide (k = j) := fun j => by
    rw [Bool.eq_iff_iff, beq_iff_eq, decide_eq_true_iff, eq_comm]
  induction nodes with
  | nil => by_cases hk : k = l <;> simp [setNode, hbeq, hk]
  | cons entry rest ih =>
    obtain ⟨j, m⟩ := entry
    rw [setNode]
    by_cases hj : j = l
    · -- the location is set already, and its node changes
      subst hj
      by_cases hk : k = j <;> simp [hbeq, hk]
    · rw [if_neg (by simpa using hj)]
      by_cases hk : k = j
      · have hne : k ≠ l := fun h => hj (hk.symm.trans h)
        simp [hk, hj]
      · simpa [hbeq, hk] using ih

namespace FileSystem

variable {fs fs' fs'' : FileSystem}

theorem node?_put_self (hl : l ≠ []) : (fs.put l n).node? l = some n := by
  rw [node?, if_neg (by simpa using hl), put, find?_setNode, if_pos rfl]

theorem node?_put_of_ne (hk : k ≠ l) : (fs.put l n).node? k = fs.node? k := by
  rw [node?, node?, put, find?_setNode, if_neg hk]

/-- **No directory is gone.** -/
def KeepsDirectories (fs fs' : FileSystem) : Prop :=
  ∀ l, fs.node? l = some .directory → fs'.node? l = some .directory

/-- A directory that is there is gone only if something is put in its place. -/
theorem keepsDirectories_put (h : fs.node? l ≠ some .directory) :
    fs.KeepsDirectories (fs.put l n) := by
  intro k hk
  have hne : k ≠ l := fun heq => h (heq ▸ hk)
  rw [node?_put_of_ne hne, hk]

/-- **Something else is at a location only if a directory is now**, where nothing was, and if it
may be there. -/
def LeavesOrMakes (fs fs' : FileSystem) (l : Location) (may : Prop) : Prop :=
  fs'.node? l = fs.node? l ∨ fs.node? l = none ∧ fs'.node? l = some .directory ∧ may

theorem LeavesOrMakes.mono {may may' : Prop} (h : fs.LeavesOrMakes fs' l may)
    (hmay : may → may') : fs.LeavesOrMakes fs' l may' :=
  h.imp_right fun ⟨hnone, hdirectory, hl⟩ => ⟨hnone, hdirectory, hmay hl⟩

theorem LeavesOrMakes.trans {may : Prop} (h : fs.LeavesOrMakes fs' l may)
    (h' : fs'.LeavesOrMakes fs'' l may) : fs.LeavesOrMakes fs'' l may := by
  rcases h with heq | ⟨hnone, hdirectory, hl⟩
  · rcases h' with heq' | ⟨hnone', hdirectory', hl⟩
    · exact .inl (heq'.trans heq)
    · exact .inr ⟨heq ▸ hnone', hdirectory', hl⟩
  · rcases h' with heq' | ⟨hnone', -, -⟩
    · exact .inr ⟨hnone, heq'.trans hdirectory, hl⟩
    · rw [hdirectory] at hnone'
      cases hnone'

/-- What is at a location stays there. -/
theorem LeavesOrMakes.node?_eq_some {may : Prop} (h : fs.LeavesOrMakes fs' l may)
    (hn : fs.node? l = some n) : fs'.node? l = some n := by
  rcases h with heq | ⟨hnone, -, -⟩
  · exact heq.trans hn
  · rw [hn] at hnone
    cases hnone

/-- **There are only more directories**, each at one of these locations. -/
def AddsDirectories (P : Location → Prop) (fs fs' : FileSystem) : Prop :=
  ∀ l, fs.LeavesOrMakes fs' l (P l)

theorem AddsDirectories.refl (P : Location → Prop) (fs : FileSystem) : fs.AddsDirectories P fs :=
  fun _ => .inl rfl

theorem AddsDirectories.mono (h : fs.AddsDirectories P fs') (hP : ∀ l, P l → Q l) :
    fs.AddsDirectories Q fs' :=
  fun l => (h l).mono (hP l)

theorem AddsDirectories.trans (h : fs.AddsDirectories P fs') (h' : fs'.AddsDirectories P fs'') :
    fs.AddsDirectories P fs'' :=
  fun l => (h l).trans (h' l)

theorem AddsDirectories.keeps (h : fs.AddsDirectories P fs') : fs.KeepsDirectories fs' :=
  fun l hl => (h l).node?_eq_some hl

/-! ## §2 Following paths -/

/-- A part is followed from a directory, and if it says something it is entered. -/
theorem of_follow_eq_ok {part : String} (h : fs.follow here part = .ok l) :
    fs.node? here = some .directory ∧
      l = if Path.isName part then Path.enter here part else here := by
  unfold follow at h
  split at h
  · cases h
  · cases h
  · rename_i hdirectory
    refine ⟨hdirectory, ?_⟩
    rw [Path.isName, Path.enter]
    split at h
    · rename_i hsilent
      rw [hsilent]
      exact (Except.ok.inj h).symm
    · rename_i hname
      rw [Bool.eq_false_iff.mpr hname, Bool.not_false, if_pos rfl]
      split at h
      · rename_i hup
        rw [if_pos (eq_of_beq hup)]
        exact (Except.ok.inj h).symm
      · rename_i hup
        split at h
        · cases h
        · rw [if_neg fun heq => hup (beq_iff_eq.mpr heq)]
          exact (Except.ok.inj h).symm

theorem follow_of_keeps {part : String} (hkeeps : fs.KeepsDirectories fs')
    (h : fs.follow here part = .ok l) : fs'.follow here part = .ok l := by
  have hhere := (of_follow_eq_ok h).1
  rw [← h, follow, follow, hhere, hkeeps here hhere]

theorem foldlM_follow_of_keeps (hkeeps : fs.KeepsDirectories fs') : ∀ {here},
    parts.foldlM fs.follow here = .ok l → parts.foldlM fs'.follow here = .ok l := by
  induction parts with
  | nil => exact fun h => h
  | cons part rest ih =>
    intro here h
    obtain ⟨next, hnext, hrest⟩ := except_bind_eq_ok.mp h
    exact except_bind_eq_ok.mpr ⟨next, follow_of_keeps hkeeps hnext, ih hrest⟩

/-- **A path leads where its names lead.** -/
theorem eq_of_foldlM_follow : ∀ {here}, parts.foldlM fs.follow here = .ok l →
    l = (parts.filter Path.isName).foldl Path.enter here := by
  induction parts with
  | nil => exact fun h => (Except.ok.inj h).symm
  | cons part rest ih =>
    intro here h
    obtain ⟨next, hnext, hrest⟩ := except_bind_eq_ok.mp h
    obtain ⟨-, rfl⟩ := of_follow_eq_ok hnext
    rw [ih hrest]
    cases hname : Path.isName part with
    | true => rw [List.filter_cons_of_pos hname]; rfl
    | false => rw [List.filter_cons_of_neg (by rw [hname]; decide)]; rfl

/-- A path that leads somewhere can be followed part by part. -/
theorem locate_eq_ok_iff : fs.locate p = .ok l ↔
    (p.text.toList.any (·.toNat == 0) || pathLimit < p.text.utf8ByteSize) = false ∧
      p.parts.foldlM fs.follow [] = .ok l := by
  rw [locate]
  split
  · rename_i hunusable
    refine iff_of_false (fun h => ?_) fun h => ?_
    · cases h
    · rw [h.1] at hunusable
      cases hunusable
  · rename_i husable
    exact (and_iff_right (Bool.not_eq_true _ |>.mp husable)).symm

theorem locate_of_keeps (hkeeps : fs.KeepsDirectories fs') (h : fs.locate p = .ok l) :
    fs'.locate p = .ok l := by
  obtain ⟨husable, hparts⟩ := locate_eq_ok_iff.mp h
  exact locate_eq_ok_iff.mpr ⟨husable, foldlM_follow_of_keeps hkeeps hparts⟩

theorem eq_location_of_locate (h : fs.locate p = .ok l) : l = p.location :=
  eq_of_foldlM_follow (locate_eq_ok_iff.mp h).2

/-- A path has parts, and they are followed from a directory. -/
theorem directory_of_foldlM_parts (h : p.parts.foldlM fs.follow here = .ok l) :
    fs.node? here = some .directory := by
  obtain ⟨part, rest, hparts⟩ := List.exists_cons_of_ne_nil p.parts_ne_nil
  rw [hparts] at h
  obtain ⟨_, hnext, -⟩ := except_bind_eq_ok.mp h
  exact (of_follow_eq_ok hnext).1

/-- What begins a text that can be a path can be one. -/
theorem usable_of_append {s t : String}
    (h : ((s ++ t).toList.any (·.toNat == 0) || pathLimit < (s ++ t).utf8ByteSize) = false) :
    (s.toList.any (·.toNat == 0) || pathLimit < s.utf8ByteSize) = false := by
  rw [String.toList_append, List.any_append, String.utf8ByteSize_append, Bool.or_eq_false_iff,
    Bool.or_eq_false_iff, decide_eq_false_iff_not] at h
  rw [Bool.or_eq_false_iff, decide_eq_false_iff_not]
  exact ⟨h.1.1, fun hlong => h.2 (by omega)⟩

/-- **The directory that a path is joined to is led through**, if the whole leads somewhere. -/
theorem locate_of_join (hbase : base.isEmpty = false) (hp : p.isAbsolute = false)
    (h : fs.locate (base.join p) = .ok l) : fs.locate base = .ok base.location := by
  obtain ⟨husable, hparts⟩ := locate_eq_ok_iff.mp h
  obtain ⟨stem, hjoin, hstem⟩ := Path.exists_stem hbase hp
  obtain ⟨here, hhere, hon⟩ : ∃ here, (Path.partsOf stem).foldlM fs.follow [] = .ok here ∧
      p.parts.foldlM fs.follow here = .ok l := by
    rw [Path.parts_of_stem hjoin, List.foldlM_append] at hparts
    exact except_bind_eq_ok.mp hparts
  have hdirectory := directory_of_foldlM_parts hon
  have hbaseParts : base.parts.foldlM fs.follow [] = .ok here := by
    show (Path.partsOf base.text.toList).foldlM fs.follow [] = .ok here
    rcases hstem with hstem | hstem
    · rw [hstem, hhere]
    · have hstay : fs.follow here "" = .ok here := by
        rw [follow, hdirectory]
        rfl
      rw [hstem, Path.partsOf_append, List.foldlM_append, hhere]
      exact except_bind_eq_ok.mpr ⟨here, rfl, except_bind_eq_ok.mpr ⟨here, hstay, rfl⟩⟩
  have hlocate : fs.locate base = .ok here := by
    obtain ⟨more, hmore⟩ := Path.exists_text_join hbase hp
    rw [hmore] at husable
    exact locate_eq_ok_iff.mpr ⟨usable_of_append husable, hbaseParts⟩
  rw [hlocate, eq_location_of_locate hlocate]

/-! ## §3 Making directories -/

theorem adds_of_makeDirectory (h : fs.makeDirectory p = .ok fs') :
    fs.AddsDirectories p.Passes fs' := by
  unfold makeDirectory at h
  split at h
  · cases h
  · rename_i l hlocate
    split at h
    · cases h
    · rename_i hnone
      obtain rfl := Except.ok.inj h
      obtain rfl := eq_location_of_locate hlocate
      have hfree : fs.node? p.location = none := by simpa using hnone
      intro k
      by_cases hk : k = p.location
      · subst hk
        have hroot : p.location ≠ [] := fun hroot => by
          rw [hroot] at hfree
          cases hfree
        exact .inr ⟨hfree, node?_put_self hroot, p.passes_location⟩
      · exact .inl (node?_put_of_ne hk)

theorem AddsDirectories.of_parent? {q : Path} (hq : p.parent? = some q)
    (h : fs.AddsDirectories q.Passes fs') : fs.AddsDirectories p.Passes fs' :=
  h.mono fun _ hl => hl.mono (Path.names_prefix_of_parent? hq)

/-- **Making directories only adds directories**, on the way to where the path leads, whether the
last of them can be made or not. -/
theorem adds_makeDirectories (count : Nat) (fs : FileSystem) (p : Path) :
    fs.AddsDirectories p.Passes (makeDirectories count fs p).1 := by
  fun_induction makeDirectories count fs p with
  | case1 => exact .refl _ _
  | case2 _ _ _ _ _ hmade => exact adds_of_makeDirectory hmade
  | case3 => exact .refl _ _
  | case4 => exact .refl _ _
  | case5 => exact .refl _ _
  | case6 _ _ _ _ _ _ hq _ habove ih =>
    rw [habove] at ih
    exact ih.of_parent? hq
  | case7 _ _ _ _ _ _ hq _ habove _ hmade ih =>
    rw [habove] at ih
    exact (ih.of_parent? hq).trans (adds_of_makeDirectory hmade)
  | case8 _ _ _ _ _ _ hq _ habove _ _ ih =>
    rw [habove] at ih
    exact ih.of_parent? hq

end FileSystem

end TrackingPlan.Files
