import ImageBuild.Proofs.Archive.Completeness
import ImageBuild.Proofs.Archive.Overlaying
import ImageBuild.Proofs.Archive.Targets
import ImageBuild.Proofs.FileSystem.Aside
import ImageBuild.Proofs.FileSystem.Stages
import ImageBuild.Proofs.Restaging
import ImageBuild.Proofs.StagingFaults

/-!
# Staging the same context once more

A working directory that was empty and is staged into from one context, with one dockerfile after
the other, holds at every moment the entries of the context before the first one at fault and perhaps
a dockerfile (`Filled`). Staging into it once more ends as staging into an empty directory does, finds
everything but the dockerfile in its place, and leaves the dockerfile of its own (`Filled.stage`).
-/

namespace ImageBuild

/-- What can be put into a working directory of what a context is archived to: the entries that
staging does not exclude, as far as none is at fault. -/
def Contained.unpackable (archived : Except ArchiveFault Archive) (workdir : Place) : Archive :=
  match archived with
  | .error _ => []
  | .ok archive => (archive.filter fun entry => !entry.isExcluded).takeWhile
      fun entry => (entry.fault? workdir).isNone

theorem Contained.unpackable_congr {workdir workdir' : Place} (h : workdir.SameLengths workdir')
    (archived : Except ArchiveFault Archive) :
    unpackable archived workdir = unpackable archived workdir' := by
  have hentries : ArchiveEntry.fault? workdir = ArchiveEntry.fault? workdir' :=
    funext fun entry => entry.fault?_congr h
  unfold unpackable
  rw [hentries]

theorem ArchiveEntry.path_ne {entry : ArchiveEntry} (h : entry.isExcluded = false) :
    entry.path ≠ [dockerfileName] := by
  intro hpath
  simp [isExcluded, hpath] at h

namespace FileSystem

variable {fs fs' before : FileSystem} {workdir p q : Place} {c : Contained} {done : Archive}
  {dockerfile : Option Node}

/-! ## The same archive -/

/-- Where the text of a directory leads depends on nothing but its length. -/
theorem Resolved.resolve_joinText_congr (h : fs.Resolved p) (h' : fs'.Resolved p)
    (hdir : fs.isDirAt p = true) (hdir' : fs'.isDirAt p = true) (cwd : Place) :
    fs.resolve cwd (joinText p.text "") = fs'.resolve cwd (joinText p.text "") := by
  have hwalk : fs.walk none linkLimit [] (namesToSteps p ++ [.here]) =
      fs'.walk none linkLimit [] (namesToSteps p ++ [.here]) := by
    rw [walk_eq_walkOn, walk_eq_walkOn, h.advance_names, h'.advance_names, advance_here none hdir,
      advance_here none hdir', advance, advance]
    split_ifs <;> rfl
  unfold resolve locate destination
  rw [Path.ofText_joinText_text h.named]
  dsimp only
  rw [if_pos rfl, hwalk]

/-! ## What is there between two stagings -/

/-- A working directory that is empty, beside the context that is staged into it. -/
structure IsReady (before : FileSystem) (root workdir : Place) : Prop where
  wellFormed : before.WellFormed
  isDir : before.isDirAt workdir = true
  empty : ∀ path, path ≠ [] → before.lookup (workdir ++ path) = none
  isDirRoot : before.isDirAt root = true
  /-- The context does not hold the working directory. -/
  beside : ¬ root <+: workdir

/-- What has become of a file system of which a working directory holds entries now, and perhaps a
dockerfile. -/
structure Filled (before : FileSystem) (workdir : Place) (done : Archive)
    (dockerfile : Option Node) (fs : FileSystem) : Prop where
  wellFormed : fs.WellFormed
  /-- Nothing outside of the working directory is changed. -/
  outside : fs.erase workdir = before.erase workdir
  itself : fs.lookup workdir = before.lookup workdir
  made : ∀ entry ∈ done, fs.lookup (workdir ++ entry.path) = some entry.stored.unpacked
  named : fs.lookup (workdir ++ [dockerfileName]) = dockerfile
  isFile : ∀ node, dockerfile = some node → node.isFile = true
  /-- Nothing else is there. -/
  free : ∀ path, path ≠ [] → path ≠ [dockerfileName] → (∀ entry ∈ done, entry.path ≠ path) →
    fs.lookup (workdir ++ path) = none

/-- No file stands in the working directory. -/
theorem IsReady.not_prefix {root : Place} (h : before.IsReady root workdir)
    (hfile : before.isFileAt p = true) : ¬ workdir <+: p := by
  intro hp
  by_cases hself : p = workdir
  · have hdir := h.isDir
    rw [← hself, isDirAt_of_isFileAt hfile] at hdir
    cases hdir
  · exact not_below_of_isFileAt h.empty hfile ⟨hp, hself⟩

theorem IsReady.filled {root : Place} (h : before.IsReady root workdir) :
    Filled before workdir [] none before :=
  ⟨h.wellFormed, rfl, rfl, nofun, h.empty _ (by simp), nofun, fun path hne _ _ => h.empty path hne⟩

namespace Filled

theorem lookup_outside (h : Filled before workdir done dockerfile fs) (hq : ¬ workdir <+: q) :
    fs.lookup q = before.lookup q := by
  have herase := congrArg (·.lookup q) h.outside
  simpa [lookup_erase, hq] using herase

theorem isDirAt_workdir (h : Filled before workdir done dockerfile fs)
    (hdir : before.isDirAt workdir = true) : fs.isDirAt workdir = true := by
  unfold isDirAt at hdir ⊢
  rwa [h.itself]

/-- What stood anywhere still stands there. -/
theorem extends_before (h : Filled before workdir done dockerfile fs)
    (hempty : ∀ path, path ≠ [] → before.lookup (workdir ++ path) = none) : before.Extends fs := by
  intro q node hl
  by_cases hq : workdir <+: q
  · obtain ⟨path, rfl⟩ := hq
    rcases eq_or_ne path [] with rfl | hne
    · rwa [List.append_nil, h.itself, ← List.append_nil workdir]
    · rw [hempty path hne] at hl
      cases hl
  · rwa [h.lookup_outside hq]

/-- The context is archived as it was before. -/
theorem archive_eq (h : Filled before workdir done dockerfile fs) {root : Place}
    (hready : before.IsReady root workdir) (cwd : Place) :
    fs.archive cwd root.text = before.archive cwd root.text := by
  have hdown : ¬ workdir <+: root := by
    rintro ⟨path, rfl⟩
    rcases eq_or_ne path [] with rfl | hne
    · exact hready.beside (by simp)
    · obtain ⟨mode, hl⟩ := isDirAt_iff.1 hready.isDirRoot
      rw [hready.empty path hne] at hl
      cases hl
  have hbelow : fs.below root = before.below root := by
    rw [← fs.below_erase hready.beside hdown, h.outside, before.below_erase hready.beside hdown]
  have hdir : fs.isDirAt root = true := by
    have hroot := hready.isDirRoot
    unfold isDirAt at hroot ⊢
    rwa [h.lookup_outside hdown]
  have hresolved := h.wellFormed.resolved (stands_of_isDirAt hdir)
  have hresolved' := hready.wellFormed.resolved (stands_of_isDirAt hready.isDirRoot)
  unfold FileSystem.archive
  rw [hresolved.resolve_joinText_congr hresolved' hdir hready.isDirRoot]
  split
  · rfl
  · rename_i place hresolve
    obtain rfl := hresolved'.eq_of_resolve hresolve
    rw [hdir, hready.isDirRoot, hbelow]

/-- Two working directories with the same entries and the same dockerfile hold the same. -/
theorem lookup_eq (h : Filled before workdir done dockerfile fs) {workdir' : Place}
    (h' : Filled before workdir' done dockerfile fs') {path : Place} (hne : path ≠ []) :
    fs.lookup (workdir ++ path) = fs'.lookup (workdir' ++ path) := by
  by_cases hname : path = [dockerfileName]
  · rw [hname, h.named, h'.named]
  by_cases hthere : ∃ entry ∈ done, entry.path = path
  · obtain ⟨entry, hmem, rfl⟩ := hthere
    rw [h.made entry hmem, h'.made entry hmem]
  · have hnot : ∀ entry ∈ done, entry.path ≠ path := fun entry hmem he => hthere ⟨entry, hmem, he⟩
    rw [h.free path hne hname hnot, h'.free path hne hname hnot]

/-! ## Unpacking -/

/-- What an archive brings is there already, or its place is free. -/
theorem takes (h : Filled before workdir done dockerfile fs) {archive : Archive}
    (harchive : archive.WellFormed) (hkept : ∀ entry ∈ archive, entry.isExcluded = false)
    (hdone : done <+: archive) {entry : ArchiveEntry} (hmem : entry ∈ archive) :
    fs.Takes workdir entry := by
  by_cases hthere : ∃ entry' ∈ done, entry'.path = entry.path
  · obtain ⟨entry', hmem', hpath⟩ := hthere
    obtain rfl : entry' = entry := List.inj_on_of_nodup_map harchive.distinct
      (hdone.subset hmem') hmem hpath
    exact Or.inr (h.made entry' hmem')
  · exact Or.inl (h.free _ (harchive.nonempty entry hmem) (ArchiveEntry.path_ne (hkept entry hmem))
      fun entry' hmem' hpath => hthere ⟨entry', hmem', hpath⟩)

theorem unpack (h : Filled before workdir done dockerfile fs)
    (hdir : before.isDirAt workdir = true) {archive : Archive} (harchive : archive.WellFormed)
    (hparents : archive.ParentsFirst) (hkept : ∀ entry ∈ archive, entry.isExcluded = false)
    (hdone : done <+: archive.takeWhile fun entry => (entry.fault? workdir).isNone) :
    Filled before workdir (archive.takeWhile fun entry => (entry.fault? workdir).isNone) dockerfile
        (fs.unpack workdir archive).1 ∧
      (fs.unpack workdir archive).2 = archive.findSome? (ArchiveEntry.fault? workdir) := by
  obtain ⟨hover, hresult⟩ := (Overlaid.nil h.wellFormed).unpack (h.isDirAt_workdir hdir)
    harchive hparents fun entry => h.takes harchive hkept (hdone.trans (List.takeWhile_prefix _))
  rw [List.nil_append] at hover
  have hput : ∀ entry ∈ archive.takeWhile fun entry => (entry.fault? workdir).isNone,
      entry ∈ archive := fun entry hmem => (List.takeWhile_prefix _).subset hmem
  refine ⟨⟨hover.wellFormed, hover.outside.trans h.outside, ?_, hover.made, ?_, h.isFile, ?_⟩,
    hresult⟩
  · rw [← h.itself]
    refine hover.others _ fun entry hmem => ?_
    simpa using harchive.nonempty entry (hput entry hmem)
  · rw [← h.named]
    exact hover.others _ fun entry hmem hpath =>
      ArchiveEntry.path_ne (hkept entry (hput entry hmem)) (List.append_cancel_left hpath)
  · intro path hne hname hnot
    rw [← h.free path hne hname fun entry hmem => hnot entry (hdone.subset hmem)]
    exact hover.others _ fun entry hmem hpath => hnot entry hmem (List.append_cancel_left hpath)

/-! ## Copying the dockerfile -/

theorem isFile_of_lookup (h : Filled before workdir done dockerfile fs) {node : Node}
    (hl : fs.lookup (workdir ++ [dockerfileName]) = some node) : node.isFile = true :=
  h.isFile node (h.named ▸ hl)

/-- The dockerfile that is there is replaced, unless the text of its place is too long. -/
theorem copyFile (h : Filled before workdir done dockerfile fs)
    (hdir : before.isDirAt workdir = true) (hdone : ∀ entry ∈ done, entry.path ≠ [dockerfileName])
    {source : Place} (hsource : ¬ workdir <+: source) {content : List UInt8} {mode : Mode}
    {time : Time} (hl : before.lookup source = some (.file content mode time)) :
    (¬ Place.Fits (workdir ++ [dockerfileName]) ∧
        fs.copyFile source workdir dockerfileName = .error .nameTooLong) ∨
      Place.Fits (workdir ++ [dockerfileName]) ∧
        ∃ fs', fs.copyFile source workdir dockerfileName = .ok fs' ∧
          Filled before workdir done (some (.file content mode time)) fs' := by
  have hne : workdir ++ [dockerfileName] ≠ [] := by simp
  have hdir' := h.isDirAt_workdir hdir
  have hcopy : fs.copyFile source workdir dockerfileName = _ :=
    h.wellFormed.copyFile_eq hdir' isEntryName_dockerfileName (fun node => h.isFile_of_lookup)
      (fun he => hsource (he ▸ List.prefix_append _ _)) ((h.lookup_outside hsource).trans hl)
  by_cases hfits : Place.Fits (workdir ++ [dockerfileName])
  swap
  · rw [if_neg hfits] at hcopy
    exact Or.inl ⟨hfits, hcopy⟩
  rw [if_pos hfits] at hcopy
  obtain ⟨_, _, _, hput⟩ := h.wellFormed.put_of_copyFile hdir' isEntryName_dockerfileName
    (fun link hlink => by cases h.isFile_of_lookup hlink) hcopy
  have hothers : ∀ q, q ≠ workdir ++ [dockerfileName] →
      ((fs.insert (workdir ++ [dockerfileName]) (.file [] mode time)).insert
        (workdir ++ [dockerfileName]) (.file content mode time)).lookup q = fs.lookup q := by
    intro q hq
    rw [lookup_insert_of_ne _ _ hne hq, lookup_insert_of_ne _ _ hne hq]
  refine Or.inr ⟨hfits, _, hcopy, hput.wellFormed, ?_, ?_, ?_, lookup_insert_self _ _ hne, ?_, ?_⟩
  · exact (hput.within workdir (List.prefix_append _ _)).trans h.outside
  · exact (hothers workdir (by simp)).trans h.itself
  · intro entry hmem
    rw [hothers _ (by simpa using hdone entry hmem), h.made entry hmem]
  · intro node hnode
    exact Option.some.inj hnode ▸ rfl
  · intro path hpath hname hnot
    rw [hothers _ (by simpa using hname), h.free path hpath hname hnot]

/-! ## Staging -/

/-- Staging into a directory that was staged into already, or into an empty one: the dockerfile is
replaced if everything else is there. -/
theorem stage (h : Filled before workdir done dockerfile fs)
    (hready : before.IsReady c.root workdir) (hfile : before.isFileAt c.file = true)
    (hdone : done <+: Contained.unpackable (before.archive [] c.root.text).2 workdir) :
    (fs.stage c workdir).2.2 =
        (match Contained.stagingFault? (before.archive [] c.root.text).2 workdir with
        | some fault => .error fault
        | none => .ok ()) ∧
      ((fs.stage c workdir).2.2 = .ok () →
        Filled before workdir (Contained.unpackable (before.archive [] c.root.text).2 workdir)
          (before.lookup c.file) (fs.stage c workdir).2.1) ∧
      ∀ fault, (fs.stage c workdir).2.2 = .error fault →
        Filled before workdir (Contained.unpackable (before.archive [] c.root.text).2 workdir)
          dockerfile (fs.stage c workdir).2.1 := by
  have hroot := hready.wellFormed.resolved (stands_of_isDirAt hready.isDirRoot)
  unfold FileSystem.stage
  rw [h.archive_eq hready]
  rcases ha : before.archive [] c.root.text with ⟨records, fault | archive⟩
  · rw [ha] at hdone
    obtain rfl := List.prefix_nil.1 hdone
    exact ⟨rfl, nofun, fun _ _ => h⟩
  rw [ha] at hdone
  unfold Contained.stagingFault?
  dsimp only [Contained.unpackable] at hdone ⊢
  have hkept : ∀ entry ∈ archive.filter fun entry => !entry.isExcluded,
      entry.isExcluded = false := fun entry hmem => by
    simpa using (List.mem_filter.1 hmem).2
  have harchive : Archive.WellFormed (archive.filter fun entry => !entry.isExcluded) :=
    (hready.wellFormed.wellFormed_archive hroot ha).of_sublist List.filter_sublist
  have hparents : Archive.ParentsFirst (archive.filter fun entry => !entry.isExcluded) :=
    hready.wellFormed.parentsFirst_filter hroot ha fun name => !(name == some dockerfileName)
  obtain ⟨hfilled, hresult⟩ := h.unpack hready.isDir harchive hparents hkept hdone
  rw [← hresult]
  rcases hu : fs.unpack workdir (archive.filter fun entry => !entry.isExcluded) with
    ⟨files, _ | fault⟩
  · rw [hu] at hfilled
    dsimp only at hfilled ⊢
    have hput : ∀ entry ∈ (archive.filter fun entry => !entry.isExcluded).takeWhile
        fun entry => (entry.fault? workdir).isNone, entry.path ≠ [dockerfileName] :=
      fun entry hmem => ArchiveEntry.path_ne (hkept entry ((List.takeWhile_prefix _).subset hmem))
    obtain ⟨content, mode, time, hl⟩ := isFileAt_iff.1 hfile
    rcases hfilled.copyFile hready.isDir hput (hready.not_prefix hfile) hl with
      ⟨hfits, hcopy⟩ | ⟨hfits, files', hcopy, hcopied⟩
    · rw [if_neg hfits, hcopy]
      exact ⟨rfl, nofun, fun _ _ => hfilled⟩
    · rw [if_pos hfits, hcopy, hl]
      exact ⟨rfl, fun _ => hcopied, nofun⟩
  · rw [hu] at hfilled
    exact ⟨rfl, nofun, fun _ _ => hfilled⟩

end Filled

/-! ## Contexts that can be staged -/

/-- A context that can be staged into an empty working directory. -/
structure CanBeStaged (fs : FileSystem) (root workdir : Place) : Prop where
  /-- The root can be listed. -/
  listed : (∀ name ∈ root, name.utf8ByteSize ≤ longestName) ∧
    (joinText root.text "").utf8ByteSize < pathLimit
  /-- Everything but sockets can be archived. -/
  archivable : ∀ path node, path ≠ [] → fs.lookup (root ++ path) = some node →
    node.Archivable (Place.text (root ++ path))
  /-- What is put into the working directory has short enough names there. -/
  fits : ∀ path node, path ≠ [] → path.head? ≠ some dockerfileName →
    fs.lookup (root ++ path) = some node → (∀ mode, node ≠ .socket mode) →
    Place.Fits (workdir ++ path)
  /-- No link that is put there has an empty target. -/
  targets : ∀ path, path.head? ≠ some dockerfileName → fs.lookup (root ++ path) ≠ some (.link "")
  dockerfile : Place.Fits (workdir ++ [dockerfileName])

variable {root : Place}

theorem IsReady.root_ne_nil (h : before.IsReady root workdir) : root ≠ [] := by
  rintro rfl
  exact h.beside List.nil_prefix

/-- The root of a context that can be archived has short enough names. -/
theorem Resolved.short_of_resolve (h : fs.Resolved root) {cwd place : Place}
    (hresolve : fs.resolve cwd (joinText root.text "") = .ok place) :
    (∀ name ∈ root, name.utf8ByteSize ≤ longestName) ∧
      (joinText root.text "").utf8ByteSize < pathLimit := by
  have hfound := Destination.existing_eq_ok_iff.1 hresolve
  unfold locate at hfound
  split_ifs at hfound with hlong
  unfold destination at hfound
  split at hfound
  · cases hfound
  · rename_i htext
    have hzero : '\x00' ∉ (joinText root.text "").toList := by
      intro hmem
      rw [textFault?, if_pos (List.contains_iff_mem.2 hmem)] at htext
      cases htext
    rw [Path.ofText_joinText_text h.named] at hfound
    dsimp only at hfound
    rw [if_pos rfl, walk_eq_walkOn, h.advance_names] at hfound
    split_ifs at hfound with hnames
    · cases hfound
    · refine ⟨fun name hmem => Nat.not_lt.1 fun hsize => hnames ⟨name, hmem, hsize⟩, ?_⟩
      simpa [hzero] using hlong

/-- The entries that are put into an empty directory are at fault for their names or for an empty
link. -/
theorem WellFormed.findSome?_fault?_eq_none_iff (h : before.WellFormed)
    (hroot : before.Resolved root) {records : List LogRecord} {archive : Archive}
    (ha : before.archive [] root.text = (records, .ok archive)) :
    (archive.filter fun entry => !entry.isExcluded).findSome? (ArchiveEntry.fault? workdir) = none ↔
      ∀ path node stored, path ≠ [] → path.head? ≠ some dockerfileName →
        before.lookup (root ++ path) = some node → node.kept? = some stored →
        Place.Fits (workdir ++ path) ∧ stored ≠ .link "" := by
  have hfault : ∀ entry : ArchiveEntry, entry.fault? workdir = none ↔
      Place.Fits (workdir ++ entry.path) ∧ entry.stored ≠ .link "" := by
    intro entry
    unfold ArchiveEntry.fault?
    split_ifs <;> simp_all
  simp only [List.findSome?_eq_none_iff, List.mem_filter, h.mem_archive_iff hroot ha, hfault]
  constructor
  · intro hall path node stored hne hhead hl hkept
    exact hall ⟨path, stored⟩
      ⟨⟨hne, node, hl, hkept⟩, by simpa [ArchiveEntry.isExcluded] using hhead⟩
  · rintro hall entry ⟨⟨hne, node, hl, hkept⟩, hexcluded⟩
    exact hall entry.path node entry.stored hne (by simpa [ArchiveEntry.isExcluded] using hexcluded)
      hl hkept

/-- A context is archived with the texts of the places below its root. -/
theorem IsReady.joinText_relativeText (h : before.IsReady root workdir) {path : Place} {node : Node}
    (hne : path ≠ []) (hl : before.lookup (root ++ path) = some node) :
    joinText root.text (relativeText path) = Place.text (root ++ path) :=
  joinText_text_relativeText (h.wellFormed.resolved (stands_of_isDirAt h.isDirRoot)).named
    h.root_ne_nil hne fun n hn => h.wellFormed.isEntryName hl n (List.mem_append_right _ hn)

theorem IsReady.canBeStaged_of_stagingFault? (h : before.IsReady root workdir)
    (hnone : Contained.stagingFault? (before.archive [] root.text).2 workdir = none) :
    before.CanBeStaged root workdir := by
  have hresolved := h.wellFormed.resolved (stands_of_isDirAt h.isDirRoot)
  rcases ha : before.archive [] root.text with ⟨records, fault | archive⟩
  · rw [ha] at hnone
    cases hnone
  have hok : (before.archive [] root.text).2 = .ok archive := congrArg Prod.snd ha
  obtain ⟨hresolve, -⟩ := hresolved.resolve_of_archive hok
  have harchivable := (h.wellFormed.exists_archive_iff hresolve h.isDirRoot).1 ⟨archive, hok⟩
  unfold Contained.stagingFault? at hnone
  rw [hok] at hnone
  dsimp only at hnone
  split at hnone
  · cases hnone
  rename_i hfound
  split_ifs at hnone with hfits
  have hentries := (h.wellFormed.findSome?_fault?_eq_none_iff hresolved ha).1 hfound
  constructor
  case listed => exact hresolved.short_of_resolve hresolve
  case archivable =>
    intro path node hne hl
    rw [← h.joinText_relativeText hne hl]
    exact harchivable path node hne hl
  case fits =>
    intro path node hne hhead hl hsocket
    obtain ⟨stored, hstored⟩ := Node.exists_stored hsocket (harchivable path node hne hl hsocket).1
    exact (hentries path node stored hne hhead hl (Node.stored?_eq_ok_some_iff.1 hstored)).1
  case targets =>
    intro path hhead hl
    have hne : path ≠ [] := by
      rintro rfl
      rw [List.append_nil] at hl
      exact hresolved.lookup_ne_link List.prefix_rfl "" hl
    have hempty := (hentries path _ _ hne hhead hl rfl).2
    rw [storedTarget_eq_empty_iff.2 rfl] at hempty
    exact hempty rfl
  case dockerfile => exact hfits

theorem IsReady.stagingFault?_of_canBeStaged (h : before.IsReady root workdir)
    (hcan : before.CanBeStaged root workdir) :
    Contained.stagingFault? (before.archive [] root.text).2 workdir = none := by
  have hresolved := h.wellFormed.resolved (stands_of_isDirAt h.isDirRoot)
  have hresolve := hresolved.resolve_joinText h.root_ne_nil [] hcan.listed.1 h.isDirRoot
    hcan.listed.2
  obtain ⟨archive, hok⟩ := (h.wellFormed.exists_archive_iff hresolve h.isDirRoot).2
    fun path node hne hl => by
      rw [h.joinText_relativeText hne hl]
      exact hcan.archivable path node hne hl
  have hfound : (archive.filter fun entry => !entry.isExcluded).findSome?
      (ArchiveEntry.fault? workdir) = none := by
    refine (h.wellFormed.findSome?_fault?_eq_none_iff hresolved (Prod.ext rfl hok)).2 ?_
    intro path node stored hne hhead hl hkept
    refine ⟨hcan.fits path node hne hhead hl ?_, ?_⟩
    · rintro mode rfl
      cases hkept
    · rintro rfl
      cases node with
      | link target =>
        have hstored : storedTarget target = "" := by simpa [Node.kept?] using hkept
        rw [storedTarget_eq_empty_iff] at hstored
        exact hcan.targets path hhead (hstored ▸ hl)
      | _ => simp [Node.kept?] at hkept
  unfold Contained.stagingFault?
  rw [hok]
  dsimp only
  rw [hfound, if_pos hcan.dockerfile]

/-- Staging succeeds exactly if the context can be staged. -/
theorem IsReady.stagingFault?_eq_none_iff (h : before.IsReady root workdir) :
    Contained.stagingFault? (before.archive [] root.text).2 workdir = none ↔
      before.CanBeStaged root workdir :=
  ⟨h.canBeStaged_of_stagingFault?, h.stagingFault?_of_canBeStaged⟩

end FileSystem

end ImageBuild
