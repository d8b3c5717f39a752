import ImageBuild.Proofs.Archive.Unpacking
import ImageBuild.Proofs.Sandbox.Containment
import ImageBuild.Staging

/-!
# What staging leaves in a working directory

Staging into an empty directory that succeeds leaves there what `Contained.stagedAt?` says and
nothing else (`WellFormed.stage`). The nodes come from the context as it was when staging began; the
dockerfile is copied as it is, everything else goes through an archive.
-/

namespace ImageBuild

/-- What staging makes of a node of the context: nothing of pipes and sockets. -/
def Node.staged? : Node → Option Node
  | .file content mode time => some (.file content (unpackedMode mode) (unpackedTime time.seconds))
  | .dir mode => some (.dir (unpackedMode mode))
  | .link target => some (.link (storedTarget target))
  | _ => none

theorem Node.staged?_eq_map_kept? (node : Node) : node.staged? = node.kept?.map Stored.unpacked := by
  cases node <;> rfl

/-- What a staged directory has at a path: the dockerfile under its own name, nothing of what is
called so in the context, and of everything else there what can be stored. -/
def Contained.stagedAt? (fs : FileSystem) (c : Contained) (path : List Name) : Option Node :=
  if path = [dockerfileName] then fs.lookup c.file
  else if path.head? = some dockerfileName then none
  else (fs.lookup (c.root ++ path)).bind Node.staged?

theorem isEntryName_dockerfileName : IsEntryName dockerfileName := by
  decide +kernel

namespace FileSystem

variable {fs fs' : FileSystem} {dir source p : Place} {name : Name} {content : List UInt8}
  {mode : Mode} {time : Time}

/-! ## Copying the dockerfile -/

/-- Writing to a place without links puts a file there. -/
theorem WellFormed.eq_insert_of_write (h : fs.WellFormed)
    (hlink : ∀ q, q <+: p → ∀ link, fs.lookup q ≠ some (.link link))
    (hw : fs.write [] (namesToSteps p) content mode time = .ok fs') :
    fs.isDirAt p.dropLast = true ∧ fs.isDirAt p = false ∧
      fs' = fs.insert p (.file content mode time) := by
  unfold write at hw
  rcases walk_names_cases (p := []) none linkLimit (fun r hr _ link => hlink r hr link) with
    ⟨fault, he⟩ | ⟨-, hdir, hnone, he⟩ | ⟨-, he⟩
  · simp [he] at hw
  · rw [he] at hw
    exact ⟨hdir, by simp [isDirAt, show fs.lookup p = none from hnone], (Except.ok.inj hw).symm⟩
  · rw [he, List.nil_append] at hw
    dsimp only at hw
    split at hw
    · rename_i hl
      exact ⟨h.isDirAt_dropLast hl, by simp [isDirAt, hl, Node.isDir], (Except.ok.inj hw).symm⟩
    · cases hw
    · cases hw

/-- A place can only be written to if no name on the way is too long. -/
theorem Resolved.length_le_of_write (h : fs.Resolved dir)
    (hw : fs.write [] (namesToSteps (dir ++ [name])) content mode time = .ok fs') :
    ∀ n ∈ dir, n.utf8ByteSize ≤ longestName := by
  intro n hn
  by_contra hlong
  have hsteps : namesToSteps (dir ++ [name]) = namesToSteps dir ++ [.name name] := by
    simp [namesToSteps]
  have ha := h.advance_names [.name name]
  rw [if_pos ⟨n, hn, by omega⟩, ← hsteps] at ha
  unfold write at hw
  rw [walk_of_advance_failed ha] at hw
  cases hw

theorem Resolved.lookup_ne_link_of_concat (h : fs.Resolved dir)
    (hname : ∀ link, fs.lookup (dir ++ [name]) ≠ some (.link link)) {q : Place}
    (hq : q <+: dir ++ [name]) (link : String) : fs.lookup q ≠ some (.link link) := by
  rcases List.prefix_concat_iff.1 hq with rfl | hq
  · exact hname link
  · exact h.lookup_ne_link hq link

/-- Copying a file to a free place gives that place the node of the file and changes nothing
else. -/
theorem WellFormed.copyFile (h : fs.WellFormed) (hdir : fs.Resolved dir) (hname : IsEntryName name)
    (hfree : fs.lookup (dir ++ [name]) = none) (hc : fs.copyFile source dir name = .ok fs') :
    fs'.WellFormed ∧
      (∀ q, fs'.lookup q = if q = dir ++ [name] then fs.lookup source else fs.lookup q) ∧
      (∀ n ∈ dir, n.utf8ByteSize ≤ longestName) ∧
      (Place.text (dir ++ [name])).utf8ByteSize < pathLimit := by
  have hne : dir ++ [name] ≠ [] := by simp
  have hnames : ∀ n ∈ dir ++ [name], IsEntryName n := by
    intro n hn
    rcases List.mem_append.1 hn with hn | hn
    · exact hdir.named n hn
    · exact List.mem_singleton.1 hn ▸ hname
  unfold FileSystem.copyFile at hc
  dsimp only at hc
  split_ifs at hc with hlong
  split at hc
  · rename_i content mode time hsource
    split at hc
    · cases hc
    · rename_i emptied hfirst
      -- emptying the file that is not there yet makes it
      obtain ⟨hparent, hnodir, rfl⟩ := h.eq_insert_of_write
        (fun q => hdir.lookup_ne_link_of_concat fun link => by simp [hfree]) hfirst
      have hemptied : (fs.insert (dir ++ [name]) (.file [] mode time)).WellFormed :=
        h.insert hne hnames hparent fun hd => by simp [hnodir] at hd
      have hsrc : source ≠ dir ++ [name] := by
        rintro rfl
        rw [hfree] at hsource
        cases hsource
      rw [lookup_insert_of_ne fs _ hne hsrc, hsource] at hc
      dsimp only at hc
      have hlink : ∀ q, q <+: dir ++ [name] → ∀ link,
          (fs.insert (dir ++ [name]) (.file [] mode time)).lookup q ≠ some (.link link) := by
        intro q hq link
        by_cases hqp : q = dir ++ [name]
        · rw [hqp, lookup_insert_self fs _ hne]
          simp
        · rw [lookup_insert_of_ne fs _ hne hqp]
          exact hdir.lookup_ne_link_of_concat (fun link => by simp [hfree]) hq link
      obtain ⟨hparent', hnodir', rfl⟩ := hemptied.eq_insert_of_write hlink hc
      refine ⟨?_, ?_, hdir.length_le_of_write hfirst, by omega⟩
      · exact hemptied.insert hne hnames hparent' fun hd => by simp [hnodir'] at hd
      · intro q
        rw [lookup_insert _ _ hne, lookup_insert _ _ hne, hsource]
        split_ifs
        · rfl
        · rfl
  · cases hc
  · cases hc

/-! ## Staging -/

/-- What staging into an empty working directory does, however it ends. -/
structure Staged (before : FileSystem) (c : Contained) (workdir : Place) (fs : FileSystem)
    (result : Except StagingFault Unit) : Prop where
  wellFormed : fs.WellFormed
  /-- Nothing outside of the working directory is changed. -/
  outside : ∀ q, ¬ (workdir <+: q ∧ q ≠ workdir) → fs.lookup q = before.lookup q
  /-- Nothing but the accepted file gets the name of the dockerfile. -/
  dockerfile : ∀ node, fs.lookup (workdir ++ [dockerfileName]) = some node →
    before.lookup c.file = some node
  inside : result = .ok () →
    ∀ path, path ≠ [] → fs.lookup (workdir ++ path) = c.stagedAt? before path
  length_le : result = .ok () → ∀ n ∈ workdir, n.utf8ByteSize ≤ longestName
  short : result = .ok () → ∀ path, path ≠ [] → ∀ node, fs.lookup (workdir ++ path) = some node →
    (Place.text (workdir ++ path)).utf8ByteSize < pathLimit
  archived : result = .ok () → ∃ archive, (before.archive [] c.root.text).2 = .ok archive

variable {c : Contained} {workdir : Place}

/-- What unpacking makes of the entries that staging does not exclude. -/
theorem WellFormed.unpacked_archive_iff (h : fs.WellFormed) (hroot : fs.Resolved c.root)
    {records : List LogRecord} {archive : Archive}
    (ha : fs.archive [] c.root.text = (records, .ok archive)) {path : List Name} (hne : path ≠ [])
    (node : Node) :
    (∃ entry ∈ archive.filter fun entry => !entry.isExcluded,
        entry.path = path ∧ entry.stored.unpacked = node) ↔
      path.head? ≠ some dockerfileName ∧
        (fs.lookup (c.root ++ path)).bind Node.staged? = some node := by
  simp only [List.mem_filter, h.mem_archive_iff hroot ha, ArchiveEntry.isExcluded,
    Node.staged?_eq_map_kept?, Option.bind_eq_some_iff, Option.map_eq_some_iff]
  constructor
  · rintro ⟨entry, ⟨⟨-, node', hl, hkept⟩, hex⟩, rfl, rfl⟩
    exact ⟨by simpa using hex, node', hl, entry.stored, hkept, rfl⟩
  · rintro ⟨hex, node', hl, stored, hkept, rfl⟩
    exact ⟨⟨path, stored⟩, ⟨⟨hne, node', hl, hkept⟩, by simpa using hex⟩, rfl, rfl⟩

/-- No file stands below an empty directory. -/
theorem not_below_of_isFileAt (hempty : ∀ path, path ≠ [] → fs.lookup (workdir ++ path) = none)
    (hfile : fs.isFileAt p = true) : ¬ (workdir <+: p ∧ p ≠ workdir) := by
  rintro ⟨⟨path, hp⟩, hne⟩
  obtain ⟨content, mode, time, hl⟩ := isFileAt_iff.1 hfile
  rw [← hp, hempty path fun hnil => hne (by rw [← hp, hnil, List.append_nil])] at hl
  cases hl

/-- Entries that staging does not exclude leave the place of the dockerfile free. -/
theorem Unpacked.lookup_dockerfile {before : FileSystem} {done : Archive}
    (h : Unpacked before workdir done fs) (hdone : ∀ entry ∈ done, entry.isExcluded = false) :
    fs.lookup (workdir ++ [dockerfileName]) = none := by
  rw [Option.eq_none_iff_forall_ne_some]
  intro node hl
  obtain ⟨entry, he, hpath, -⟩ := (h.inside _ (by simp) node).1 hl
  have hkept := hdone entry he
  rw [ArchiveEntry.isExcluded, hpath] at hkept
  cases hkept

/-- Staging that fails leaves some of the entries and no dockerfile. -/
theorem Unpacked.staged_error {before : FileSystem} {done : Archive}
    (h : Unpacked before workdir done fs) (hfree : fs.lookup (workdir ++ [dockerfileName]) = none)
    (fault : StagingFault) : Staged before c workdir fs (.error fault) := by
  refine ⟨h.wellFormed, h.outside, ?_, fun he => (nomatch he), fun he => (nomatch he),
    fun he => (nomatch he), fun he => (nomatch he)⟩
  intro node hl
  rw [hfree] at hl
  cases hl

/-- Copying the dockerfile completes what was unpacked. -/
theorem Unpacked.staged_ok {before : FileSystem} {done : Archive}
    (h : Unpacked before workdir done fs) (hworkdir : before.Resolved workdir)
    (hdone : ∀ path, path ≠ [] → ∀ node,
      (∃ entry ∈ done, entry.path = path ∧ entry.stored.unpacked = node) ↔
        path.head? ≠ some dockerfileName ∧
          (before.lookup (c.root ++ path)).bind Node.staged? = some node)
    (hfile : ¬ (workdir <+: c.file ∧ c.file ≠ workdir))
    (hfree : fs.lookup (workdir ++ [dockerfileName]) = none)
    (harchive : ∃ archive, (before.archive [] c.root.text).2 = .ok archive)
    (hcopy : fs.copyFile c.file workdir dockerfileName = .ok fs') :
    Staged before c workdir fs' (.ok ()) := by
  have hresolved : fs.Resolved workdir := by
    obtain ⟨node, hn, hlink⟩ := hworkdir.stands
    exact h.wellFormed.resolved ⟨node, (h.outside workdir (by simp)).trans hn, hlink⟩
  obtain ⟨hwf, hlookup, hlen, hshort⟩ :=
    h.wellFormed.copyFile hresolved isEntryName_dockerfileName hfree hcopy
  refine ⟨hwf, ?_, ?_, ?_, fun _ => hlen, ?_, fun _ => harchive⟩
  · intro q hq
    rw [hlookup, if_neg, h.outside q hq]
    rintro rfl
    exact hq ⟨List.prefix_append _ _, by simp⟩
  · intro node hl
    rwa [hlookup, if_pos rfl, h.outside _ hfile] at hl
  · intro _ path hne
    unfold Contained.stagedAt?
    rw [hlookup]
    by_cases hpath : path = [dockerfileName]
    · rw [if_pos (by rw [hpath]), if_pos hpath, h.outside _ hfile]
    · rw [if_neg (by simpa using hpath), if_neg hpath]
      ext node
      rw [h.inside path hne, hdone path hne]
      by_cases hhead : path.head? = some dockerfileName
      · simp [hhead]
      · simp [hhead]
  · intro _ path hne node hl
    by_cases hpath : path = [dockerfileName]
    · rwa [hpath]
    · rw [hlookup, if_neg (by simpa using hpath)] at hl
      obtain ⟨entry, he, rfl, -⟩ := (h.inside path hne node).1 hl
      exact h.short entry he

/-- Staging from an accepted dockerfile into an empty directory. -/
theorem WellFormed.stage (h : fs.WellFormed) (hroot : fs.Resolved c.root)
    (hfile : fs.isFileAt c.file = true) (hdir : fs.isDirAt workdir = true)
    (hempty : ∀ path, path ≠ [] → fs.lookup (workdir ++ path) = none) :
    Staged fs c workdir (fs.stage c workdir).2.1 (fs.stage c workdir).2.2 := by
  have hworkdir : fs.Resolved workdir := h.resolved (stands_of_isDirAt hdir)
  have hbelow := not_below_of_isFileAt hempty hfile
  unfold FileSystem.stage
  split
  · exact (Unpacked.nil h hempty).staged_error (hempty _ (by simp)) _
  · rename_i records archive ha
    have hkept : ∀ path, path ≠ [] → ∀ node, _ :=
      fun path hne node => h.unpacked_archive_iff hroot ha hne node
    have harchive : Archive.WellFormed (archive.filter fun entry => !entry.isExcluded) :=
      (h.wellFormed_archive hroot ha).of_sublist List.filter_sublist
    rw [← List.nil_append (archive.filter _)] at harchive
    obtain ⟨now, rest, hsplit, hdone, hrest⟩ :=
      (Unpacked.nil h hempty).unpack hworkdir harchive
    rw [List.nil_append] at hdone
    have hfree := hdone.lookup_dockerfile fun entry he => by
      obtain ⟨-, hkept⟩ := List.mem_filter.1 (hsplit ▸ List.mem_append_left rest he)
      simpa using hkept
    split
    · rename_i files fault hu
      rw [hu] at hdone hfree
      exact hdone.staged_error hfree _
    · rename_i files hu
      -- without a fault nothing of the archive is left
      rw [hu] at hdone hfree hrest
      rw [hrest rfl, List.append_nil] at hsplit
      split
      · exact hdone.staged_error hfree _
      · rename_i files' hcopy
        exact hdone.staged_ok hworkdir (hsplit ▸ hkept) hbelow hfree ⟨archive, by rw [ha]⟩ hcopy

end FileSystem

end ImageBuild
