import ImageBuild.Proofs.Archive.Refilling
import ImageBuild.Proofs.Archive.Rounds
import ImageBuild.Proofs.ByteOrder

/-!
# Archives are complete

A directory can be archived if everything below it can be: sockets are left out, pipes can not be
stored, and the text of the path of any other node has to be short enough
(`WellFormed.exists_archive_iff`). The archive then lists what the file system holds below the
directory, every node once and nothing behind links, directories before what they hold and the
entries of one directory together (`archive_complete`).
-/

namespace ImageBuild

/-! ## What can be archived -/

/-- A node that is a socket, or is no pipe and has a path with a text that is short enough. -/
def Node.Archivable (path : String) (node : Node) : Prop :=
  (∀ mode, node ≠ .socket mode) →
    (∀ mode, node ≠ .pipe mode) ∧ path.utf8ByteSize < pathLimit

theorem Node.storedAt?_isOk_iff {path : String} {node : Node} :
    (∃ stored?, node.storedAt? path = .ok stored?) ↔ node.Archivable path := by
  unfold storedAt? Archivable
  cases node with
  | socket mode => simp
  | pipe mode =>
    dsimp only [stored?]
    split_ifs <;> simp
  | _ =>
    dsimp only [stored?]
    split_ifs with hlong
    · simpa using hlong
    · simpa using hlong

theorem Node.stored?_eq_ok_some_iff {node : Node} {stored : Stored} :
    node.stored? = .ok (some stored) ↔ node.kept? = some stored := by
  cases node <;> simp [stored?, kept?]

theorem Node.exists_stored {node : Node} (hsocket : ∀ mode, node ≠ .socket mode)
    (hpipe : ∀ mode, node ≠ .pipe mode) : ∃ stored, node.stored? = .ok (some stored) := by
  cases node with
  | socket mode => exact absurd rfl (hsocket mode)
  | pipe mode => exact absurd rfl (hpipe mode)
  | _ => exact ⟨_, rfl⟩

/-- Nodes are archived if each of them can be. -/
theorem exists_archiveNodes_iff {dir : String} {tree : Tree} :
    (∃ archive, (archiveNodes dir tree).2 = .ok archive) ↔
      ∀ entry ∈ tree, entry.2.Archivable (joinText dir (relativeText entry.1)) := by
  induction tree with
  | nil => simp [archiveNodes]
  | cons entry rest ih =>
    obtain ⟨path, node⟩ := entry
    rw [List.forall_mem_cons, ← ih, ← Node.storedAt?_isOk_iff, archiveNodes]
    dsimp only
    cases hs : node.storedAt? (joinText dir (relativeText path)) with
    | error fault => simp
    | ok stored? =>
      cases stored? with
      | none => simp
      | some stored =>
        cases (archiveNodes dir rest).2 with
        | error fault => simp
        | ok archive => simp

namespace FileSystem

variable {fs : FileSystem} {cwd root : Place} {dir : String} {archive : Archive}

theorem archive_eq_archiveNodes (hresolve : fs.resolve cwd (joinText dir "") = .ok root)
    (hdir : fs.isDirAt root = true) :
    fs.archive cwd dir = archiveNodes dir (fs.below root).traversal := by
  unfold FileSystem.archive
  rw [hresolve]
  exact if_pos hdir

/-- A directory is archived if everything below it can be. -/
theorem WellFormed.exists_archive_iff (h : fs.WellFormed)
    (hresolve : fs.resolve cwd (joinText dir "") = .ok root) (hdir : fs.isDirAt root = true) :
    (∃ archive, (fs.archive cwd dir).2 = .ok archive) ↔
      ∀ path node, path ≠ [] → fs.lookup (root ++ path) = some node →
        node.Archivable (joinText dir (relativeText path)) := by
  rw [archive_eq_archiveNodes hresolve hdir, exists_archiveNodes_iff]
  simp only [Prod.forall, (h.below root).mem_traversal, h.mem_below, and_imp]

end FileSystem

/-! ## The files of an archive -/

namespace Archive

variable {archive : Archive}

/-- The files are the entries that are no directories. -/
theorem mem_files_iff {path : List Name} : path ∈ archive.files ↔
    ∃ entry ∈ archive, entry.path = path ∧ ∀ mode, entry.stored ≠ .dir mode := by
  unfold files
  rw [List.mem_mergeSort, List.mem_filterMap]
  refine exists_congr fun entry => and_congr_right fun _ => ?_
  cases entry.stored <;> simp

theorem nodup_files (h : (archive.map (·.path)).Nodup) : archive.files.Nodup := by
  unfold files
  rw [(List.mergeSort_perm _ _).nodup_iff, List.Nodup, List.pairwise_filterMap]
  refine (List.pairwise_map.1 h).imp ?_
  rintro ⟨path, stored⟩ ⟨path', stored'⟩ hne p hp p' hp'
  cases stored <;> cases stored' <;> simp_all

/-- The files are in the order of the bytes of their names. -/
theorem pairwise_files (h : (archive.map (·.path)).Nodup) :
    archive.files.Pairwise (List.Lex Text.Utf8.Precedes) := by
  have hsorted : archive.files.Pairwise fun p q => namesLe p q = true :=
    List.pairwise_mergeSort namesLe_trans namesLe_total _
  exact (hsorted.and (nodup_files h)).imp fun ⟨hle, hne⟩ => lex_of_namesLe hle hne

/-- An archive of everything below a place of a file system. -/
structure Complete (fs : FileSystem) (root : Place) (archive : Archive) : Prop where
  /-- The entries come in the order in which a stack of directories makes them listed. -/
  rounds : ∃ nodes, fs.Rounds root [[]] nodes ∧ archive = nodes.kept
  /-- They are the nodes below the place as they are stored, with their own paths. -/
  mem_iff : ∀ entry, entry ∈ archive ↔ entry.path ≠ [] ∧
    ∃ node, fs.lookup (root ++ entry.path) = some node ∧ node.stored? = .ok (some entry.stored)
  /-- Nothing but sockets is left out. -/
  covers : ∀ path node, path ≠ [] → fs.lookup (root ++ path) = some node →
    (∀ mode, node ≠ .socket mode) → ∃ entry ∈ archive, entry.path = path
  /-- No node has two entries. -/
  nodup : (archive.map (·.path)).Nodup
  /-- Links are stored as links. -/
  links : ∀ path link, fs.lookup (root ++ path) = some (.link link) →
    ⟨path, .link (storedTarget link)⟩ ∈ archive
  /-- On the way to an entry there are directories only, and no links. -/
  way : ∀ entry ∈ archive, ∀ place, place <+: root ++ entry.path → place ≠ root ++ entry.path →
    fs.isDirAt place = true
  /-- Directories come before what they hold. -/
  parentsFirst : archive.ParentsFirst
  /-- The entries of a directory come together. -/
  together : ∀ dir, archive.inDir dir <:+: archive
  /-- They are in the order of the bytes of their names. -/
  ascending : ∀ dir, (archive.inDir dir).Pairwise fun x y =>
    ∃ a b, x.path = dir ++ [a] ∧ y.path = dir ++ [b] ∧ Text.Utf8.Precedes a b
  /-- The files are the entries that are no directories. -/
  files : ∀ path, path ∈ archive.files ↔
    ∃ entry ∈ archive, entry.path = path ∧ ∀ mode, entry.stored ≠ .dir mode
  /-- They are listed without repetition. -/
  filesNodup : archive.files.Nodup
  /-- They are in the order of the bytes of their names. -/
  filesAscending : archive.files.Pairwise (List.Lex Text.Utf8.Precedes)

end Archive

namespace FileSystem

variable {fs : FileSystem} {cwd root : Place} {dir : String} {archive : Archive}

/-- The archive of a directory is complete. -/
theorem WellFormed.complete_of_archive (h : fs.WellFormed)
    (hresolve : fs.resolve cwd (joinText dir "") = .ok root) (hdir : fs.isDirAt root = true)
    (ha : (fs.archive cwd dir).2 = .ok archive) : archive.Complete fs root := by
  have harchivable := (h.exists_archive_iff hresolve hdir).1 ⟨archive, ha⟩
  rw [archive_eq_archiveNodes hresolve hdir] at ha
  obtain rfl := eq_kept_of_archiveNodes ha
  have hmem := h.mem_kept_iff root
  simp only [← Node.stored?_eq_ok_some_iff] at hmem
  have hnodup := Tree.nodup_kept (h.below root).nodup_traversal
  have hordered := Archive.Ordered.kept (h.below root)
  constructor
  case rounds => exact ⟨_, h.rounds_iff.2 rfl, rfl⟩
  case mem_iff => exact hmem
  case covers =>
    intro path node hne hl hsocket
    obtain ⟨hpipe, -⟩ := harchivable path node hne hl hsocket
    obtain ⟨stored, hs⟩ := Node.exists_stored hsocket hpipe
    exact ⟨⟨path, stored⟩, (hmem _).2 ⟨hne, node, hl, hs⟩, rfl⟩
  case nodup => exact hnodup
  case links =>
    intro path link hl
    refine (hmem _).2 ⟨?_, _, hl, rfl⟩
    rintro rfl
    obtain ⟨mode, hroot⟩ := isDirAt_iff.1 hdir
    rw [List.append_nil, hroot] at hl
    cases hl
  case way => exact fun entry hentry place => h.isDirAt_of_mem_kept hentry
  case parentsFirst => simpa using h.parentsFirst_kept root fun _ => true
  case together => exact hordered.inDir_isInfix
  case ascending =>
    intro place
    refine (hordered.pairwise_inDir place).imp ?_
    rintro x y ⟨a, b, hx, hy, hab⟩
    exact ⟨a, b, hx, hy, Text.Utf8.precedes_iff.2 hab⟩
  case files => exact fun _ => Archive.mem_files_iff
  case filesNodup => exact Archive.nodup_files hnodup
  case filesAscending => exact Archive.pairwise_files hnodup

/-- Directories with links to what holds them, to the outside and to nothing, and a socket. -/
def linkedTree : FileSystem :=
  ⟨[(["ctx"], .dir 0o755), (["out"], .dir 0o755), (["out", "x"], .file [1] 0o644 ⟨1, 0⟩),
    (["ctx", "a"], .dir 0o755), (["ctx", "a", "up"], .link ".."), (["ctx", "B"], .link "/out"),
    (["ctx", "a", "é"], .dir 0o755), (["ctx", "a", "z"], .file [] 0o600 ⟨2, 0⟩),
    (["ctx", "gone"], .link "nowhere"), (["ctx", "wire"], .socket 0o755)]⟩

/-- A name near the greatest length of one. -/
def longName : Name :=
  String.ofList (List.replicate 250 'a')

/-- Directories with this name, one in the other. -/
def deepTree : Nat → FileSystem
  | 0 => empty.insert ["ctx"] (.dir 0o755)
  | depth + 1 => (deepTree depth).insert ("ctx" :: List.replicate (depth + 1) longName) (.dir 0o755)

theorem isEntryName_longName : IsEntryName longName := by
  have hlist : longName.toList = List.replicate 250 'a' := String.toList_ofList
  have hne (s : String) (hs : s.toList ≠ List.replicate 250 'a') : longName ≠ s := by
    rintro rfl
    exact hs hlist
  refine ⟨hne _ (by decide), hne _ (by decide), hne _ (by decide), ?_, ?_⟩
  all_goals
    rw [hlist]
    intro hmem
    exact absurd (List.eq_of_mem_replicate hmem) (by decide)

theorem isDirAt_deepTree (depth : Nat) :
    (deepTree depth).isDirAt ("ctx" :: List.replicate depth longName) = true := by
  cases depth with
  | zero => exact isDirAt_iff.2 ⟨_, lookup_insert_self empty _ (by simp)⟩
  | succ depth => exact isDirAt_iff.2 ⟨_, lookup_insert_self (deepTree depth) _ (by simp)⟩

theorem wellFormed_deepTree (depth : Nat) : (deepTree depth).WellFormed := by
  induction depth with
  | zero => decide +kernel
  | succ depth ih =>
    refine ih.insert (by simp) ?_ ?_ fun _ => rfl
    · intro name hmem
      rcases List.mem_cons.1 hmem with rfl | hmem
      · decide +kernel
      · exact List.eq_of_mem_replicate hmem ▸ isEntryName_longName
    · rw [List.replicate_succ', ← List.cons_append, List.dropLast_concat]
      exact isDirAt_deepTree depth

/-- There is nothing but directories. -/
theorem isDir_of_lookup_deepTree {depth : Nat} {place : Place} {node : Node}
    (h : (deepTree depth).lookup place = some node) : node.isDir = true := by
  induction depth with
  | zero =>
    rw [deepTree, lookup_insert _ _ (by simp)] at h
    split_ifs at h
    · exact Option.some.inj h ▸ rfl
    · unfold lookup empty at h
      split_ifs at h
      · exact Option.some.inj h ▸ rfl
      · cases h
  | succ depth ih =>
    rw [deepTree, lookup_insert _ _ (by simp)] at h
    split_ifs at h
    · exact Option.some.inj h ▸ rfl
    · exact ih h

end FileSystem

end ImageBuild
