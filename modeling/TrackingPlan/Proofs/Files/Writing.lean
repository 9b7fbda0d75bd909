import TrackingPlan.Files.Write
import TrackingPlan.Proofs.Files.Directories

/-!
# Files are written where they should be, or none is

Nothing is written if the path of one file is refused, and a path that is not refused leads to a
place below the directory that it is joined to.  What a list of files leaves behind is `Wrote`; it
holds of one file (`wrote_of_writeFile`) and of lists that are written after one another
(`Wrote.append`), so it holds of all files that are written (`wrote_of_writeAll`).

§1 refused paths · §2 placing a file · §3 what is left behind · §4 writing files.
-/

namespace TrackingPlan.Files

open Bindings (GeneratedFile)

variable {p base : Path} {e : WriteError} {fs fs' mid : FileSystem}

/-! ## §1 Refused paths -/

/-- **The path of a generated file is refused** for this reason: it is empty, it begins with a
slash, or it has a part `..`. -/
inductive RefusedFor : Path → WriteError → Prop where
  | empty {p : Path} (h : p.text = "") : RefusedFor p .emptyPath
  | absolute {p : Path} (h : p.text.toList.head? = some '/') : RefusedFor p (.absolutePath p)
  | climbing {p : Path} (hrelative : p.text.toList.head? ≠ some '/') (h : p.HasPart "..") :
    RefusedFor p (.climbingPath p)

theorem checkPath_eq_error_iff : checkPath p = .error e ↔ RefusedFor p e := by
  unfold checkPath
  constructor
  · intro h
    split at h
    · rename_i hempty
      obtain rfl := Except.error.inj h
      exact .empty (Path.isEmpty_iff.mp hempty)
    · split at h
      · rename_i habsolute
        obtain rfl := Except.error.inj h
        exact .absolute (Path.isAbsolute_iff.mp habsolute)
      · rename_i habsolute
        split at h
        · rename_i hclimbs
          obtain rfl := Except.error.inj h
          exact .climbing (mt Path.isAbsolute_iff.mpr habsolute) (Path.climbs_iff.mp hclimbs)
        · cases h
  · intro h
    cases h with
    | empty h => rw [if_pos (Path.isEmpty_iff.mpr h)]
    | absolute h =>
      have hempty : ¬ p.isEmpty = true := fun hempty => by
        rw [Path.isEmpty_iff.mp hempty] at h
        cases h
      rw [if_neg hempty, if_pos (Path.isAbsolute_iff.mpr h)]
    | climbing hrelative h =>
      have hempty : ¬ p.isEmpty = true := fun hempty => by
        obtain ⟨before, after, heq, -, -⟩ := h
        rw [Path.isEmpty_iff.mp hempty] at heq
        have hrest := (List.append_eq_nil_iff.mp heq.symm).2
        exact absurd (List.append_eq_nil_iff.mp hrest).1 (by decide)
      rw [if_neg hempty, if_neg (mt Path.isAbsolute_iff.mp hrelative),
        if_pos (Path.climbs_iff.mpr h)]

theorem of_checkPath_eq_ok (h : checkPath p = .ok ()) :
    p.isAbsolute = false ∧ Path.up ∉ p.parts := by
  unfold checkPath at h
  split at h
  · cases h
  · split at h
    · cases h
    · rename_i habsolute
      split at h
      · cases h
      · rename_i hclimbs
        refine ⟨Bool.not_eq_true _ |>.mp habsolute, fun hup => hclimbs ?_⟩
        exact List.contains_iff_mem.mpr hup

/-! ## §2 Placing a file -/

namespace FileSystem

theorem of_place_eq_ok {content : ByteArray} (h : fs.place p content = .ok fs') :
    endsInName p = true ∧ fs.locate p = .ok p.location ∧
      fs.node? p.location ≠ some .directory ∧ fs' = fs.put p.location (.file content) := by
  unfold place at h
  split at h
  · cases h
  · rename_i hname
    split at h
    · cases h
    · rename_i l hlocate
      obtain rfl := eq_location_of_locate hlocate
      split at h
      · cases h
      · rename_i hdirectory
        refine ⟨?_, hlocate, hdirectory, (Except.ok.inj h).symm⟩
        rwa [Bool.not_eq_true', Bool.not_eq_false] at hname

/-- A path that ends in a name does not end where it begins. -/
theorem location_ne_nil_of_endsInName (hbase : base.isEmpty = false) (hp : p.isAbsolute = false)
    (hup : Path.up ∉ p.parts) (h : endsInName (base.join p) = true) : p.location ≠ [] := by
  obtain ⟨stem, hjoin, -⟩ := Path.exists_stem hbase hp
  have hlast : (base.join p).parts.getLast? = p.parts.getLast? := by
    rw [Path.parts_of_stem hjoin]
    exact List.getLast?_append_of_ne_nil _ p.parts_ne_nil
  rw [endsInName, hlast] at h
  split at h
  · rename_i part hpart
    have hname : Path.isName part = true := by
      rw [Bool.not_eq_true', Bool.or_eq_false_iff] at h
      rw [Path.isName, h.1]
      rfl
    have hmem : part ∈ p.names :=
      List.mem_filter.mpr ⟨List.mem_of_getLast? hpart, hname⟩
    rw [Path.location, Path.foldl_enter (Path.up_not_mem_names hup), List.append_nil]
    exact fun hnil => List.ne_nil_of_mem hmem (List.reverse_eq_nil_iff.mp hnil)
  · cases h

end FileSystem

/-! ## §3 What is left behind -/

namespace OutputDirectory

variable {d : OutputDirectory} {f : GeneratedFile} {files more : List GeneratedFile}

/-- **What files that are written leave behind.** -/
structure Wrote (d : OutputDirectory) (files : List GeneratedFile) (fs fs' : FileSystem) :
    Prop where
  /-- No directory is gone. -/
  keeps : fs.KeepsDirectories fs'
  /-- Each destination can be followed, and so can the directory that it is in. -/
  leads : ∀ f ∈ files, fs'.locate (d.destination f) = .ok (d.destination f).location ∧
    fs'.locate d.path = .ok d.path.location
  /-- **Each destination is below the directory**: more names lead there, and none leads out. -/
  below : ∀ f ∈ files, f.path.location ≠ [] ∧
    (d.destination f).location = f.path.location ++ d.path.location
  /-- **The last file for a place is there.** -/
  holds : ∀ before f after, files = before ++ f :: after →
    (∀ g ∈ after, (d.destination g).location ≠ (d.destination f).location) →
      fs'.find? (d.destination f) = some (.file f.content.toUTF8)
  /-- **Nothing else changes**, but for directories that are made on the way. -/
  others : ∀ l, (∀ f ∈ files, (d.destination f).location ≠ l) →
    fs.LeavesOrMakes fs' l (∃ f ∈ files, (d.destination f).Passes l)

theorem Wrote.nil (d : OutputDirectory) (fs : FileSystem) : d.Wrote [] fs fs where
  keeps := fun _ hl => hl
  leads := nofun
  below := nofun
  holds := fun before _ _ h => absurd h.symm (List.append_ne_nil_of_right_ne_nil before nofun)
  others := fun _ _ => .inl rfl

theorem Wrote.append (h : d.Wrote files fs mid) (h' : d.Wrote more mid fs') :
    d.Wrote (files ++ more) fs fs' where
  keeps := fun l hl => h'.keeps l (h.keeps l hl)
  leads := by
    intro f hf
    rcases List.mem_append.mp hf with hf | hf
    · exact (h.leads f hf).imp (FileSystem.locate_of_keeps h'.keeps)
        (FileSystem.locate_of_keeps h'.keeps)
    · exact h'.leads f hf
  below := List.forall_mem_append.mpr ⟨h.below, h'.below⟩
  holds := by
    intro before f after heq hlast
    rcases List.append_eq_append_iff.mp heq with ⟨between, rfl, hmore⟩ | ⟨between, rfl, hafter⟩
    · exact h'.holds between f after hmore hlast
    · rcases List.cons_eq_append_iff.mp hafter with ⟨rfl, hmore⟩ | ⟨later, rfl, rfl⟩
      · exact h'.holds [] f after hmore hlast
      · -- the file is there before more are written, and none of those goes to its place
        rw [List.forall_mem_append] at hlast
        have hf : f ∈ before ++ f :: later := List.mem_append_right before List.mem_cons_self
        have hmid := h.holds before f later rfl hlast.1
        have hlocate := (h.leads f hf).1
        rw [FileSystem.find?, hlocate] at hmid
        rw [FileSystem.find?, FileSystem.locate_of_keeps h'.keeps hlocate]
        exact (h'.others _ hlast.2).node?_eq_some hmid
  others := by
    intro l hl
    rw [List.forall_mem_append] at hl
    refine ((h.others l hl.1).mono ?_).trans ((h'.others l hl.2).mono ?_)
    · exact fun ⟨f, hf, hpasses⟩ => ⟨f, List.mem_append_left more hf, hpasses⟩
    · exact fun ⟨f, hf, hpasses⟩ => ⟨f, List.mem_append_right files hf, hpasses⟩

/-- The directory that a file is placed in has the first names of its destination. -/
theorem prefix_names_parent (hrelative : f.path.isAbsolute = false) :
    ((d.destination f).parent?.getD d.path).names <+: (d.destination f).names := by
  cases hparent : (d.destination f).parent? with
  | none =>
    rw [destination, Path.names_join d.nonempty hrelative]
    exact List.prefix_append _ _
  | some q => exact Path.names_prefix_of_parent? hparent

/-- **What writing one file does**: directories are made on the way to its destination, and the
file is placed there, where no directory is. -/
theorem of_writeFile_eq_ok {target : Path} (h : d.writeFile fs f = (fs', .ok target))
    (hcheck : checkPath f.path = .ok ()) :
    target = d.destination f ∧ ∃ mid, fs.AddsDirectories (d.destination f).Passes mid ∧
      mid.place (d.destination f) f.content.toUTF8 = .ok fs' := by
  have hrelative := (of_checkPath_eq_ok hcheck).1
  unfold writeFile at h
  dsimp only at h
  split at h
  · cases h
  · rename_i mid hmade
    split at h
    · cases h
    · rename_i hplaced
      obtain ⟨rfl, htarget⟩ := Prod.mk.inj h
      refine ⟨(Except.ok.inj htarget).symm, mid, ?_, hplaced⟩
      let parent := (d.destination f).parent?.getD d.path
      have hadds := FileSystem.adds_makeDirectories parent.parts.length fs parent
      rw [hmade] at hadds
      exact hadds.mono fun _ hl => hl.mono (prefix_names_parent hrelative)

theorem wrote_of_writeFile {target : Path} (h : d.writeFile fs f = (fs', .ok target))
    (hcheck : checkPath f.path = .ok ()) : d.Wrote [f] fs fs' := by
  obtain ⟨hrelative, hup⟩ := of_checkPath_eq_ok hcheck
  obtain ⟨-, mid, hadds, hplaced⟩ := of_writeFile_eq_ok h hcheck
  obtain ⟨hname, hlocate, hdirectory, rfl⟩ := FileSystem.of_place_eq_ok hplaced
  have hlocation : (d.destination f).location = f.path.location ++ d.path.location :=
    Path.location_join d.nonempty hrelative hup
  have hne : f.path.location ≠ [] :=
    FileSystem.location_ne_nil_of_endsInName d.nonempty hrelative hup hname
  have hroot : (d.destination f).location ≠ [] := by
    rw [hlocation]
    exact List.append_ne_nil_of_left_ne_nil hne _
  -- the file is placed over no directory, so none is gone
  have hkeeps := FileSystem.keepsDirectories_put (n := .file f.content.toUTF8) hdirectory
  have hleads := FileSystem.locate_of_keeps hkeeps hlocate
  refine
    { keeps := fun l hl => hkeeps l (hadds.keeps l hl)
      leads := List.forall_mem_singleton.mpr
        ⟨hleads, FileSystem.locate_of_join d.nonempty hrelative hleads⟩
      below := List.forall_mem_singleton.mpr ⟨hne, hlocation⟩
      holds := ?_
      others := ?_ }
  · intro before g after hfiles _
    rcases List.singleton_eq_append_iff.mp hfiles with ⟨-, hg⟩ | ⟨-, hg⟩
    · obtain ⟨rfl, -⟩ := List.cons_eq_cons.mp hg
      rw [FileSystem.find?, hleads]
      exact FileSystem.node?_put_self hroot
    · cases hg
  · intro l hl
    have hne : l ≠ (d.destination f).location := (List.forall_mem_singleton.mp hl).symm
    rw [FileSystem.LeavesOrMakes, FileSystem.node?_put_of_ne hne]
    exact (hadds l).mono fun hpasses => ⟨f, List.mem_singleton_self f, hpasses⟩

theorem writeAll_nil (d : OutputDirectory) (fs : FileSystem) : d.writeAll fs [] = (fs, .ok []) :=
  rfl

theorem writeAll_cons (d : OutputDirectory) (fs : FileSystem) (f : GeneratedFile)
    (rest : List GeneratedFile) : d.writeAll fs (f :: rest) =
      match d.writeFile fs f with
      | (fs, .error e) => (fs, .error e)
      | (fs, .ok target) =>
        match d.writeAll fs rest with
        | (fs, .error e) => (fs, .error e)
        | (fs, .ok targets) => (fs, .ok (target :: targets)) := by
  -- the equation holds for any way to write one file, and this one is too large to compute with
  delta writeAll writeAll._f
  generalize d.writeFile = w
  rfl

/-- **Files that are all written were written one after another.** -/
theorem wrote_of_writeAll (hcheck : ∀ f ∈ files, checkPath f.path = .ok ()) :
    ∀ {fs} {targets : List Path}, d.writeAll fs files = (fs', .ok targets) →
      targets = files.map d.destination ∧ d.Wrote files fs fs' := by
  induction files with
  | nil =>
    intro fs targets h
    rw [writeAll_nil] at h
    obtain ⟨rfl, htargets⟩ := Prod.mk.inj h
    exact ⟨(Except.ok.inj htargets).symm, .nil d fs⟩
  | cons f rest ih =>
    intro fs targets h
    obtain ⟨hf, hrest⟩ := List.forall_mem_cons.mp hcheck
    rw [writeAll_cons] at h
    split at h
    · cases h
    · rename_i mid target hfirst
      split at h
      · cases h
      · rename_i later hlater
        obtain ⟨rfl, htargets⟩ := Prod.mk.inj h
        obtain ⟨rfl, hwrote⟩ := ih hrest hlater
        obtain ⟨rfl, -⟩ := of_writeFile_eq_ok hfirst hf
        exact ⟨(Except.ok.inj htargets).symm, (wrote_of_writeFile hfirst hf).append hwrote⟩

/-! ## §4 Writing files -/

/-- **Nothing is written if a path is refused, and otherwise all stays in the directory.**  The
first path that is refused gives the error. -/
theorem write_contained (d : OutputDirectory) (fs : FileSystem) (files : List GeneratedFile) :
    ((∃ f ∈ files, ∃ e, RefusedFor f.path e) →
      ∃ before f after e, files = before ++ f :: after ∧
        (∀ g ∈ before, ∀ e', ¬ RefusedFor g.path e') ∧ RefusedFor f.path e ∧
          d.write fs files = (fs, .error e)) ∧
    ∀ fs' targets, d.write fs files = (fs', .ok targets) →
      targets = files.map (fun f => d.path.join f.path) ∧ d.Wrote files fs fs' := by
  unfold write
  constructor
  · rintro ⟨f, hf, e, hrefused⟩
    have hfails : ∀ u, files.forM (fun f => checkPath f.path) ≠ .ok u := by
      intro u hok
      have hcheck := forM_eq_ok_iff.mp hok f hf
      rw [checkPath_eq_error_iff.mpr hrefused] at hcheck
      cases hcheck
    obtain ⟨e, he⟩ := exists_error_of_not_ok hfails
    obtain ⟨before, g, after, hfiles, hbefore, hg⟩ := exists_first_of_forM_eq_error he
    refine ⟨before, g, after, e, hfiles, ?_, checkPath_eq_error_iff.mp hg, by rw [he]⟩
    intro g hg e' hrefused
    have hcheck := hbefore g hg
    rw [checkPath_eq_error_iff.mpr hrefused] at hcheck
    cases hcheck
  · intro fs' targets h
    split at h
    · cases h
    · rename_i hok
      exact wrote_of_writeAll (forM_eq_ok_iff.mp hok) h

/-- The directory `out`. -/
def out : OutputDirectory :=
  ⟨⟨"out"⟩, rfl⟩

/-- Three files for two places, of which one is spelled in two ways. -/
def spelledTwice : List GeneratedFile :=
  [⟨⟨"a.rs"⟩, "first"⟩, ⟨⟨"sub//b.rs"⟩, "second"⟩, ⟨⟨"./a.rs"⟩, "third"⟩]

/-- Files of which the last would leave its directory, if only to come back. -/
def leavingLast : List GeneratedFile :=
  spelledTwice ++ [⟨⟨"sub/../c.rs"⟩, "fourth"⟩]

theorem write_contained_spelledTwice :
    (∃ f ∈ leavingLast, ∃ e, RefusedFor f.path e) ∧
    (∃ before f after e, leavingLast = before ++ f :: after ∧
      (∀ g ∈ before, ∀ e', ¬ RefusedFor g.path e') ∧ RefusedFor f.path e ∧
        out.write {} leavingLast = ({}, .error e)) ∧
    (out.write {} spelledTwice).2 =
      .ok [⟨"out/a.rs"⟩, ⟨"out/sub//b.rs"⟩, ⟨"out/./a.rs"⟩] ∧
    out.Wrote spelledTwice {} (out.write {} spelledTwice).1 := by
  have hrefused : ∃ f ∈ leavingLast, ∃ e, RefusedFor f.path e :=
    ⟨_, List.mem_append_right _ (List.mem_singleton_self _), _,
      .climbing (by decide) ⟨"sub/".toList, "/c.rs".toList, by decide, .inr rfl, .inr rfl⟩⟩
  have hwritten : (out.write {} spelledTwice).2.toOption =
      some [⟨"out/a.rs"⟩, ⟨"out/sub//b.rs"⟩, ⟨"out/./a.rs"⟩] := by decide +kernel
  replace hwritten := except_toOption_eq_some.mp hwritten
  generalize hwrite : out.write {} spelledTwice = written at hwritten ⊢
  obtain ⟨fs', result⟩ := written
  obtain rfl : result = _ := hwritten
  exact ⟨hrefused, (write_contained out {} leavingLast).1 hrefused, rfl,
    ((write_contained out {} spelledTwice).2 _ _ hwrite).2⟩

end OutputDirectory

end TrackingPlan.Files
