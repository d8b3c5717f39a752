import ImageBuild.Proofs.Archive.Traversal
import ImageBuild.Proofs.FileSystem.Resolved

/-!
# What an archive holds

An archive of a directory has one entry for every node below it that can be stored
(`mem_archive_iff`). Its paths are those of a tree of directories (`Archive.WellFormed`), so its
entries never get in each other's way when they are unpacked.
-/

namespace ImageBuild

/-- What an archive keeps of a node: nothing of pipes and sockets. -/
def Node.kept? : Node → Option Stored
  | .file content mode time => some (.file content mode time.seconds)
  | .dir mode => some (.dir mode)
  | .link target => some (.link (storedTarget target))
  | _ => none

theorem Node.eq_kept?_of_storedAt? {path : String} {node : Node} {stored? : Option Stored}
    (h : node.storedAt? path = .ok stored?) : stored? = node.kept? := by
  unfold storedAt? at h
  cases node with
  | socket mode => exact (Except.ok.inj h).symm
  | pipe mode =>
    dsimp only at h
    split_ifs at h
    cases h
  | _ =>
    dsimp only at h
    split_ifs at h
    exact (Except.ok.inj h).symm

/-- The entries for the nodes of a tree that can be stored, in their order. -/
def Tree.kept (tree : Tree) : Archive :=
  tree.filterMap fun entry => entry.2.kept?.map fun stored => ⟨entry.1, stored⟩

/-- Archiving keeps what can be stored. -/
theorem eq_kept_of_archiveNodes {dir : String} {tree : Tree} {archive : Archive}
    (h : (archiveNodes dir tree).2 = .ok archive) : archive = tree.kept := by
  induction tree generalizing archive with
  | nil => exact (Except.ok.inj h).symm
  | cons entry rest ih =>
    obtain ⟨path, node⟩ := entry
    unfold archiveNodes at h
    dsimp only at h
    unfold Tree.kept
    rw [List.filterMap_cons]
    split at h
    · cases h
    · rename_i hs
      simp only [← Node.eq_kept?_of_storedAt? hs, Option.map_none]
      exact ih h
    · rename_i stored hs
      simp only [← Node.eq_kept?_of_storedAt? hs, Option.map_some]
      cases hr : (archiveNodes dir rest).2 with
      | error fault =>
        simp [hr] at h
      | ok archive' =>
        simp only [hr] at h
        rw [← Except.ok.inj h, ih hr]
        rfl

/-- The entries of a tree of directories. -/
structure Archive.WellFormed (archive : Archive) : Prop where
  distinct : (archive.map (·.path)).Nodup
  nonempty : ∀ entry ∈ archive, entry.path ≠ []
  named : ∀ entry ∈ archive, ∀ name ∈ entry.path, IsEntryName name
  /-- An entry on the way to another one is a directory. -/
  way : ∀ entry ∈ archive, ∀ entry' ∈ archive, entry.path <+: entry'.path →
    entry.path ≠ entry'.path → ∃ mode, entry.stored = .dir mode

/-- An entry has another path than those before it. -/
theorem Archive.WellFormed.path_ne {done : Archive} {entry entry' : ArchiveEntry}
    (h : Archive.WellFormed (done ++ [entry])) (hmem : entry' ∈ done) :
    entry'.path ≠ entry.path := by
  have hdistinct := h.distinct
  rw [List.map_append, List.nodup_append] at hdistinct
  exact hdistinct.2.2 _ (List.mem_map_of_mem hmem) _ (by simp)

theorem Tree.mem_kept {tree : Tree} {entry : ArchiveEntry} :
    entry ∈ tree.kept ↔ ∃ node, (entry.path, node) ∈ tree ∧ node.kept? = some entry.stored := by
  unfold kept
  simp only [List.mem_filterMap, Option.map_eq_some_iff, Prod.exists]
  constructor
  · rintro ⟨path, node, hmem, stored, hs, rfl⟩
    exact ⟨node, hmem, hs⟩
  · rintro ⟨node, hmem, hs⟩
    exact ⟨entry.path, node, hmem, entry.stored, hs, rfl⟩

theorem Tree.nodup_kept {tree : Tree} (h : (tree.map (·.1)).Nodup) :
    (tree.kept.map (·.path)).Nodup := by
  unfold kept List.Nodup
  rw [List.pairwise_map, List.pairwise_filterMap]
  refine (List.pairwise_map.1 h).imp ?_
  rintro ⟨path, node⟩ ⟨path', node'⟩ hne b hb b' hb' e
  simp only [Option.map_eq_some_iff] at hb hb'
  obtain ⟨stored, -, rfl⟩ := hb
  obtain ⟨stored', -, rfl⟩ := hb'
  exact hne e

theorem Archive.WellFormed.of_sublist {archive part : Archive} (h : archive.WellFormed)
    (hpart : part.Sublist archive) : part.WellFormed := by
  refine ⟨h.distinct.sublist (hpart.map _), ?_, ?_, ?_⟩
  · exact fun entry he => h.nonempty entry (hpart.subset he)
  · exact fun entry he => h.named entry (hpart.subset he)
  · exact fun entry he entry' he' => h.way entry (hpart.subset he) entry' (hpart.subset he')

namespace FileSystem

variable {fs : FileSystem} {root : Place}

theorem WellFormed.below (h : fs.WellFormed) (dir : Place) : (fs.below dir).WellFormed := by
  refine ⟨h.nodup_below dir, fun entry he => (h.mem_below.1 he).1, ?_⟩
  rintro ⟨path, node⟩ he q hq hne hqp
  obtain ⟨-, hl⟩ := h.mem_below.1 he
  have hd := h.isDirAt_of_prefix hl ((List.prefix_append_right_inj dir).2 hq) (by simpa using hqp)
  obtain ⟨mode, hm⟩ := isDirAt_iff.1 hd
  exact ⟨mode, h.mem_below.2 ⟨hne, hm⟩⟩

/-- The text of a resolved place, with a slash behind it, leads to this place if it leads
anywhere. -/
theorem Resolved.eq_of_resolve (h : fs.Resolved root) {cwd place : Place}
    (hr : fs.resolve cwd (joinText root.text "") = .ok place) : place = root := by
  have hd := Destination.existing_eq_ok_iff.1 hr
  unfold locate at hd
  split_ifs at hd
  unfold destination at hd
  split at hd
  · cases hd
  · rw [Path.ofText_joinText_text h.named] at hd
    dsimp only at hd
    rw [if_pos rfl] at hd
    unfold walk at hd
    rw [h.advance_names] at hd
    split_ifs at hd with hlong
    by_cases hroot : fs.isDirAt root = true
    · rw [advance_here none hroot, advance] at hd
      exact (Destination.found.inj hd).symm
    · obtain ⟨fault, hf⟩ := advance_of_not_isDirAt none (by simpa using hroot) .here []
      simp [hf] at hd

/-- What is archived by the text of a resolved place is a directory at this place. -/
theorem Resolved.resolve_of_archive (h : fs.Resolved root) {cwd : Place} {archive : Archive}
    (ha : (fs.archive cwd root.text).2 = .ok archive) :
    fs.resolve cwd (joinText root.text "") = .ok root ∧ fs.isDirAt root = true := by
  unfold FileSystem.archive at ha
  split at ha
  · cases ha
  · rename_i place hresolve
    obtain rfl := h.eq_of_resolve hresolve
    split_ifs at ha with hdir
    exact ⟨hresolve, hdir⟩

/-- The archive of a resolved directory. -/
theorem Resolved.eq_kept_of_archive (h : fs.Resolved root)
    {records : List LogRecord} {archive : Archive}
    (ha : fs.archive [] root.text = (records, .ok archive)) :
    archive = (fs.below root).traversal.kept := by
  unfold FileSystem.archive at ha
  split at ha
  · cases ha
  · rename_i place hr
    rw [h.eq_of_resolve hr] at ha
    split_ifs at ha
    · exact eq_kept_of_archiveNodes (congrArg Prod.snd ha)
    · cases ha

theorem WellFormed.mem_kept_iff (h : fs.WellFormed) (root : Place) (entry : ArchiveEntry) :
    entry ∈ (fs.below root).traversal.kept ↔ entry.path ≠ [] ∧
      ∃ node, fs.lookup (root ++ entry.path) = some node ∧ node.kept? = some entry.stored := by
  rw [Tree.mem_kept]
  simp only [(h.below root).mem_traversal, h.mem_below, and_assoc, exists_and_left]

/-- Nothing but directories is on the way to an entry. -/
theorem WellFormed.isDirAt_of_mem_kept (h : fs.WellFormed) {entry : ArchiveEntry}
    (hentry : entry ∈ (fs.below root).traversal.kept) {place : Place}
    (hpre : place <+: root ++ entry.path) (hproper : place ≠ root ++ entry.path) :
    fs.isDirAt place = true := by
  obtain ⟨-, node, hl, -⟩ := (h.mem_kept_iff root entry).1 hentry
  exact h.isDirAt_of_prefix hl hpre hproper

/-- The directories on the way to an entry are entries. -/
theorem WellFormed.mem_kept_of_prefix (h : fs.WellFormed) {entry : ArchiveEntry}
    (hentry : entry ∈ (fs.below root).traversal.kept) {path : List Name} (hne : path ≠ [])
    (hpre : path <+: entry.path) (hproper : path ≠ entry.path) :
    ∃ mode, ⟨path, .dir mode⟩ ∈ (fs.below root).traversal.kept := by
  have hdir := h.isDirAt_of_mem_kept hentry ((List.prefix_append_right_inj root).2 hpre)
    (by simpa using hproper)
  obtain ⟨mode, hmode⟩ := isDirAt_iff.1 hdir
  exact ⟨mode, (h.mem_kept_iff root _).2 ⟨hne, _, hmode, rfl⟩⟩

/-- An archive holds an entry for every node below the directory that can be stored. -/
theorem WellFormed.mem_archive_iff (h : fs.WellFormed) (hroot : fs.Resolved root)
    {records : List LogRecord} {archive : Archive}
    (ha : fs.archive [] root.text = (records, .ok archive)) (entry : ArchiveEntry) :
    entry ∈ archive ↔ entry.path ≠ [] ∧ ∃ node, fs.lookup (root ++ entry.path) = some node ∧
      node.kept? = some entry.stored := by
  rw [hroot.eq_kept_of_archive ha]
  exact h.mem_kept_iff root entry

theorem WellFormed.wellFormed_archive (h : fs.WellFormed) (hroot : fs.Resolved root)
    {records : List LogRecord} {archive : Archive}
    (ha : fs.archive [] root.text = (records, .ok archive)) : archive.WellFormed := by
  refine ⟨?_, ?_, ?_, ?_⟩
  · rw [hroot.eq_kept_of_archive ha]
    exact Tree.nodup_kept (h.below root).nodup_traversal
  · exact fun entry he => ((h.mem_archive_iff hroot ha entry).1 he).1
  · intro entry he name hname
    obtain ⟨-, node, hl, -⟩ := (h.mem_archive_iff hroot ha entry).1 he
    exact h.isEntryName hl name (List.mem_append_right root hname)
  · intro entry he entry' he' hpre hne
    obtain ⟨-, node, hl, hkept⟩ := (h.mem_archive_iff hroot ha entry).1 he
    obtain ⟨-, node', hl', -⟩ := (h.mem_archive_iff hroot ha entry').1 he'
    have hd := h.isDirAt_of_prefix hl' ((List.prefix_append_right_inj root).2 hpre)
      (by simpa using hne)
    obtain ⟨mode, hm⟩ := isDirAt_iff.1 hd
    rw [hm, Option.some.injEq] at hl
    exact ⟨mode, by rw [← Option.some.injEq, ← hkept, ← hl]; rfl⟩

end FileSystem

end ImageBuild
