import ImageBuild.Proofs.Archive.Order
import ImageBuild.Proofs.Archive.Targets
import ImageBuild.Proofs.Staging

/-!
# Archiving what was staged

The archive of a directory that was staged is the archive of the context again, but for what staging
changes: the entries called `Dockerfile` at the top are left out and the dockerfile stands in their
place, modes have nine bits, and times are not zero (`Staged.rearchived`). Nothing has to be said of
the order: an archive is known by what it holds (`Ordered.eq_of_mem_iff`).
-/

namespace ImageBuild

/-! ## Entries -/

/-- What is stored of a node that was unpacked. -/
def Stored.rearchived : Stored → Stored
  | .file content mode seconds =>
    .file content (unpackedMode mode) (unpackedTime seconds).seconds
  | .dir mode => .dir (unpackedMode mode)
  | .link target => .link (if target = "/" then "//" else target)

/-- An entry of an archive, when it was unpacked and is archived again. -/
def ArchiveEntry.rearchived (entry : ArchiveEntry) : ArchiveEntry :=
  { entry with stored := entry.stored.rearchived }

/-- How the archive of a staged directory follows from the archive of the context: the entry of the
dockerfile stands among the entries at the top by its name, and without it the archive is that of
the context again. -/
def Archive.Rearchived (context : Archive) (dockerfile : Stored) (sent : Archive) : Prop :=
  ∃ front rest, sent = front ++ ⟨[dockerfileName], dockerfile⟩ :: rest ∧
    front ++ rest = (context.filter (!·.isExcluded)).map ArchiveEntry.rearchived ∧
    (∀ entry ∈ front, ∃ name, entry.path = [name] ∧ name < dockerfileName) ∧
    ∀ entry ∈ rest, ∀ name, entry.path = [name] → dockerfileName < name

theorem Node.kept?_unpacked {node : Node} {stored : Stored} (h : node.kept? = some stored) :
    stored.unpacked.kept? = some stored.rearchived := by
  cases node with
  | link target =>
    obtain rfl := Option.some.inj h
    exact congrArg (some ∘ Stored.link) (storedTarget_storedTarget target)
  | pipe | socket => cases h
  | file | dir =>
    obtain rfl := Option.some.inj h
    rfl

theorem Node.storedAt?_of_kept? {path : String} {node : Node} {stored : Stored}
    (h : node.kept? = some stored) (hshort : path.utf8ByteSize < pathLimit) :
    node.storedAt? path = .ok (some stored) := by
  unfold storedAt?
  cases node with
  | pipe | socket => cases h
  | _ =>
    obtain rfl := Option.some.inj h
    exact if_neg (by omega)

/-- Nodes are archived if all of them can be stored and can be reached. -/
theorem archiveNodes_of_kept? {dir : String} {tree : Tree}
    (h : ∀ entry ∈ tree, (∃ stored, entry.2.kept? = some stored) ∧
      (joinText dir (relativeText entry.1)).utf8ByteSize < pathLimit) :
    (archiveNodes dir tree).2 = .ok tree.kept := by
  have hok : ∃ archive, (archiveNodes dir tree).2 = .ok archive := by
    induction tree with
    | nil => exact ⟨[], rfl⟩
    | cons entry rest ih =>
      obtain ⟨path, node⟩ := entry
      obtain ⟨⟨stored, hkept⟩, hshort⟩ := h _ List.mem_cons_self
      obtain ⟨archive, harchive⟩ := ih fun entry he => h entry (List.mem_cons_of_mem _ he)
      refine ⟨⟨path, stored⟩ :: archive, ?_⟩
      unfold archiveNodes
      simp only [Node.storedAt?_of_kept? hkept hshort, harchive]
      rfl
  obtain ⟨archive, harchive⟩ := hok
  rw [harchive, eq_kept_of_archiveNodes harchive]

/-- The order of an archive and what it holds tell where its entries stand. -/
theorem Archive.Rearchived.of_mem_iff {context sent : Archive} {dockerfile : Stored}
    (hcontext : context.Ordered) (hsent : sent.Ordered)
    (hdockerfile : ⟨[dockerfileName], dockerfile⟩ ∈ sent)
    (hmem : ∀ entry : ArchiveEntry, entry.path ≠ [dockerfileName] →
      (entry ∈ sent ↔ entry ∈ (context.filter (!·.isExcluded)).map ArchiveEntry.rearchived)) :
    context.Rearchived dockerfile sent := by
  obtain ⟨front, rest, rfl⟩ := List.append_of_mem hdockerfile
  obtain ⟨-, hback, hcross⟩ := List.pairwise_append.1 hsent
  have hfront : ∀ entry ∈ front, listedBefore entry.path [dockerfileName] = true :=
    fun entry he => hcross entry he _ List.mem_cons_self
  have hrest : ∀ entry ∈ rest, listedBefore [dockerfileName] entry.path = true :=
    (List.pairwise_cons.1 hback).1
  have hordered : Archive.Ordered ((context.filter (!·.isExcluded)).map ArchiveEntry.rearchived) :=
    List.pairwise_map.2 (hcontext.of_sublist List.filter_sublist)
  refine ⟨front, rest, rfl, ?_, fun entry he => listedBefore_singleton (hfront entry he), ?_⟩
  · have hpart : Archive.Ordered (front ++ rest) :=
      hsent.of_sublist ((List.sublist_cons_self _ rest).append_left front)
    refine hpart.eq_of_mem_iff hordered fun entry => ?_
    by_cases hpath : entry.path = [dockerfileName]
    · -- the dockerfile stands only once in an archive in order, and is excluded from the context
      refine iff_of_false (fun he => ?_) fun he => ?_
      · rcases List.mem_append.1 he with he | he
        · have hlt := hfront entry he
          rw [hpath, listedBefore_irrefl] at hlt
          cases hlt
        · have hlt := hrest entry he
          rw [hpath, listedBefore_irrefl] at hlt
          cases hlt
      · obtain ⟨original, horiginal, rfl⟩ := List.mem_map.1 he
        have hex := (List.mem_filter.1 horiginal).2
        rw [ArchiveEntry.isExcluded, show original.path = [dockerfileName] from hpath] at hex
        cases hex
    · have hne : entry ≠ ⟨[dockerfileName], dockerfile⟩ := by
        rintro rfl
        exact hpath rfl
      rw [← hmem entry hpath, List.mem_append, List.mem_append, List.mem_cons, or_iff_right hne]
  · rintro entry he name hname
    have hlt := hrest entry he
    rw [hname] at hlt
    exact of_decide_eq_true hlt

namespace FileSystem

variable {before fs : FileSystem} {c : Contained} {workdir : Place}

/-- The archive of a directory whose nodes can all be stored and reached. -/
theorem Resolved.archive_of_kept? (h : fs.Resolved workdir) (hwf : fs.WellFormed)
    (hne : workdir ≠ []) (hdir : fs.isDirAt workdir = true) (cwd : Place)
    (hnames : ∀ name ∈ workdir, name.utf8ByteSize ≤ longestName)
    (htext : (joinText workdir.text "").utf8ByteSize < pathLimit)
    (hnodes : ∀ path, path ≠ [] → ∀ node, fs.lookup (workdir ++ path) = some node →
      (∃ stored, node.kept? = some stored) ∧
        (Place.text (workdir ++ path)).utf8ByteSize < pathLimit) :
    (fs.archive cwd workdir.text).2 = .ok (fs.below workdir).traversal.kept := by
  unfold FileSystem.archive
  rw [h.resolve_joinText hne cwd hnames hdir htext]
  dsimp only
  rw [if_pos hdir]
  refine archiveNodes_of_kept? fun ⟨path, node⟩ he => ?_
  obtain ⟨hpath, hl⟩ := hwf.mem_below.1 ((hwf.below workdir).mem_traversal.1 he)
  have hentry : ∀ name ∈ path, IsEntryName name := fun name hname =>
    hwf.isEntryName hl name (List.mem_append_right workdir hname)
  rw [joinText_text_relativeText h.named hne hpath hentry]
  exact hnodes path hpath node hl

/-- What stands in a staged directory can be stored. -/
theorem kept?_of_stagedAt? {path : List Name} {node : Node} (hfile : before.isFileAt c.file = true)
    (h : c.stagedAt? before path = some node) : ∃ stored, node.kept? = some stored := by
  unfold Contained.stagedAt? at h
  split_ifs at h
  · obtain ⟨content, mode, time, hl⟩ := isFileAt_iff.1 hfile
    obtain rfl := Option.some.inj (hl.symm.trans h)
    exact ⟨_, rfl⟩
  · obtain ⟨node', -, hstaged⟩ := Option.bind_eq_some_iff.1 h
    cases node' with
    | pipe | socket => cases hstaged
    | _ =>
      obtain rfl := Option.some.inj hstaged
      exact ⟨_, rfl⟩

/-- What the archive of a staged directory holds. -/
theorem Staged.mem_kept (h : Staged before c workdir fs (.ok ())) {entry : ArchiveEntry} :
    entry ∈ (fs.below workdir).traversal.kept ↔ entry.path ≠ [] ∧
      ∃ node, c.stagedAt? before entry.path = some node ∧ node.kept? = some entry.stored := by
  rw [Tree.mem_kept]
  simp only [(h.wellFormed.below workdir).mem_traversal, h.wellFormed.mem_below]
  constructor
  · rintro ⟨node, ⟨hpath, hl⟩, hkept⟩
    exact ⟨hpath, node, h.inside rfl _ hpath ▸ hl, hkept⟩
  · rintro ⟨hpath, node, hl, hkept⟩
    exact ⟨node, ⟨hpath, h.inside rfl _ hpath ▸ hl⟩, hkept⟩

/-! ## The archive of a staged directory -/

/-- An entry of a staged directory other than the dockerfile comes from an entry of the context. -/
theorem WellFormed.mem_rearchived_iff (h : before.WellFormed) (hroot : before.Resolved c.root)
    {records : List LogRecord} {context : Archive}
    (ha : before.archive [] c.root.text = (records, .ok context)) {entry : ArchiveEntry} :
    entry ∈ (context.filter (!·.isExcluded)).map ArchiveEntry.rearchived ↔
      entry.path ≠ [] ∧ entry.path ≠ [dockerfileName] ∧
        ∃ node, c.stagedAt? before entry.path = some node ∧ node.kept? = some entry.stored := by
  simp only [List.mem_map, List.mem_filter, h.mem_archive_iff hroot ha]
  constructor
  · rintro ⟨original, ⟨⟨hpath, node, hl, hkept⟩, hex⟩, rfl⟩
    have hhead : original.path.head? ≠ some dockerfileName := by
      simpa [ArchiveEntry.isExcluded] using hex
    have hne : original.path ≠ [dockerfileName] := fun he => hhead (by rw [he]; rfl)
    refine ⟨hpath, hne, original.stored.unpacked, ?_, Node.kept?_unpacked hkept⟩
    show c.stagedAt? before original.path = _
    rw [Contained.stagedAt?, if_neg hne, if_neg hhead, hl, Option.bind_some,
      Node.staged?_eq_map_kept?, hkept]
    rfl
  · rintro ⟨hpath, hne, node, hl, hkept⟩
    rw [Contained.stagedAt?, if_neg hne] at hl
    split_ifs at hl with hhead
    obtain ⟨original, hlookup, hstaged⟩ := Option.bind_eq_some_iff.1 hl
    rw [Node.staged?_eq_map_kept?] at hstaged
    obtain ⟨stored, horiginal, rfl⟩ := Option.map_eq_some_iff.1 hstaged
    refine ⟨⟨entry.path, stored⟩, ⟨⟨hpath, original, hlookup, horiginal⟩, ?_⟩, ?_⟩
    · simpa [ArchiveEntry.isExcluded] using hhead
    · rw [Node.kept?_unpacked horiginal] at hkept
      exact congrArg (ArchiveEntry.mk entry.path) (Option.some.inj hkept)

/-- Archiving a staged directory. -/
theorem Staged.rearchived (h : Staged before c workdir fs (.ok ())) (hwf : before.WellFormed)
    (hroot : before.Resolved c.root) (hfile : before.isFileAt c.file = true)
    (hdir : before.isDirAt workdir = true) (hne : workdir ≠ []) (cwd : Place) :
    ∃ context content mode time sent, (before.archive [] c.root.text).2 = .ok context ∧
      before.lookup c.file = some (.file content mode time) ∧
      (fs.archive cwd workdir.text).2 = .ok sent ∧
      context.Rearchived (.file content mode time.seconds) sent := by
  obtain ⟨context, hcontext⟩ := h.archived rfl
  obtain ⟨content, mode, time, hdockerfile⟩ := isFileAt_iff.1 hfile
  have hstaged : c.stagedAt? before [dockerfileName] = some (.file content mode time) :=
    (if_pos rfl).trans hdockerfile
  have hsent : (fs.archive cwd workdir.text).2 = .ok (fs.below workdir).traversal.kept := by
    have hdir' : fs.isDirAt workdir = true := by
      obtain ⟨mode, hmode⟩ := isDirAt_iff.1 hdir
      exact isDirAt_iff.2 ⟨mode, (h.outside workdir (by simp)).trans hmode⟩
    have hresolved := h.wellFormed.resolved (stands_of_isDirAt hdir')
    -- the text of the directory with a slash is shorter than that of the dockerfile in it
    have htext : (joinText workdir.text "").utf8ByteSize < pathLimit := by
      have hshort := h.short rfl [dockerfileName] (by simp) _
        (h.inside rfl [dockerfileName] (by simp) ▸ hstaged)
      rw [Place.text_append hne (List.cons_ne_nil _ _), String.utf8ByteSize_append] at hshort
      rw [joinText_text hresolved.named hne (by decide +kernel), String.append_empty]
      omega
    refine hresolved.archive_of_kept? h.wellFormed hne hdir' cwd (h.length_le rfl) htext ?_
    intro path hpath node hl
    exact ⟨kept?_of_stagedAt? hfile (h.inside rfl path hpath ▸ hl), h.short rfl path hpath node hl⟩
  refine ⟨context, content, mode, time, _, hcontext, hdockerfile, hsent, ?_⟩
  have hrecords :
      before.archive [] c.root.text = ((before.archive [] c.root.text).1, .ok context) :=
    Prod.ext rfl hcontext
  refine Archive.Rearchived.of_mem_iff ?_ (.kept (h.wellFormed.below workdir)) ?_
    fun entry hentry => ?_
  · rw [hroot.eq_kept_of_archive hrecords]
    exact .kept (hwf.below c.root)
  · exact h.mem_kept.2 ⟨by simp, _, hstaged, rfl⟩
  · rw [h.mem_kept, hwf.mem_rearchived_iff hroot hrecords]
    exact and_congr_right fun _ => (and_iff_right hentry).symm

end FileSystem

end ImageBuild
