import ImageBuild.Proofs.Archive.Order
import ImageBuild.Proofs.Archive.Unpacking
import ImageBuild.Proofs.FileSystem.Within

/-!
# Unpacking into a directory that holds something

What is in the way of an entry is replaced, and a link in the way could lead an entry astray. An
archive lists the directories on the way to an entry before it (`Archive.ParentsFirst`), and
unpacking takes no link for a directory. So every entry goes where its path says, whatever the
directory held before, and nothing but the places of the entries is changed (`Refilled.unpack`).
-/

namespace ImageBuild

/-! ## The directories on the way -/

/-- The directories on the way to an entry are entries before it. -/
def Archive.ParentsFirst (archive : Archive) : Prop :=
  ∀ now entry rest, archive = now ++ entry :: rest →
    ∀ path, path ≠ [] → path <+: entry.path → path ≠ entry.path →
      ∃ parent ∈ now, parent.path = path ∧ ∃ mode, parent.stored = .dir mode

theorem Archive.Ordered.parentsFirst {archive : Archive} (h : archive.Ordered)
    (hparents : ∀ entry ∈ archive, ∀ path, path ≠ [] → path <+: entry.path → path ≠ entry.path →
      ∃ parent ∈ archive, parent.path = path ∧ ∃ mode, parent.stored = .dir mode) :
    archive.ParentsFirst := by
  rintro now entry rest rfl path hne hpre hproper
  obtain ⟨parent, hmem, hpath, hdir⟩ := hparents entry (by simp) path hne hpre hproper
  have hbefore : listedBefore parent.path entry.path = true :=
    hpath ▸ listedBefore_of_prefix hne hpre hproper
  refine ⟨parent, ?_, hpath, hdir⟩
  rcases List.mem_append.1 hmem with hmem | hmem
  · exact hmem
  · -- the order leaves no place for the parent from the entry on
    exfalso
    rcases List.mem_cons.1 hmem with rfl | hmem
    · exact hproper hpath.symm
    · have hafter := List.rel_of_pairwise_cons (List.pairwise_append.1 h).2.1 hmem
      rw [listedBefore_asymm hbefore] at hafter
      cases hafter

namespace FileSystem

variable {fs fs' before : FileSystem} {dir target root : Place} {name : Name} {node : Node}
  {entry : ArchiveEntry} {done : Archive}

/-- The directories on the way to an entry are entries before it, also if the entries under some
names are left out. -/
theorem WellFormed.parentsFirst_kept (h : fs.WellFormed) (root : Place)
    (keep : Option Name → Bool) :
    Archive.ParentsFirst
      ((fs.below root).traversal.kept.filter fun entry => keep entry.path.head?) := by
  have hordered := Archive.Ordered.kept (h.below root)
  refine (hordered.of_sublist List.filter_sublist).parentsFirst ?_
  intro entry hentry path hne hpre hproper
  obtain ⟨hmem, hkeep⟩ := List.mem_filter.1 hentry
  obtain ⟨mode, hparent⟩ := h.mem_kept_of_prefix hmem hne hpre hproper
  refine ⟨⟨path, .dir mode⟩, List.mem_filter.2 ⟨hparent, ?_⟩, rfl, mode, rfl⟩
  obtain ⟨rest, hrest⟩ := hpre
  rw [← hrest, List.head?_append_of_ne_nil path hne] at hkeep
  exact hkeep

theorem WellFormed.parentsFirst_filter (h : fs.WellFormed) (hroot : fs.Resolved root)
    {records : List LogRecord} {archive : Archive}
    (ha : fs.archive [] root.text = (records, .ok archive)) (keep : Option Name → Bool) :
    Archive.ParentsFirst (archive.filter fun entry => keep entry.path.head?) := by
  rw [hroot.eq_kept_of_archive ha]
  exact h.parentsFirst_kept root keep

/-! ## One entry -/

theorem create_name_eq_ok (h : fs.create dir [.name name] node = .ok fs') :
    fs.isDirAt dir = true ∧ fs.lookup (dir ++ [name]) = none ∧
      fs' = fs.insert (dir ++ [name]) node := by
  unfold create at h
  rw [slot_name] at h
  split_ifs at h with hnodir hlong hnode
  · dsimp only at h
    split at h
    · cases h
    · cases h
  · dsimp only at h
    split at h
    · cases h
    · rename_i hfree
      exact ⟨by simpa using hnodir, hfree, (Except.ok.inj h).symm⟩

theorem unlink_name_eq_ok (h : fs.unlink dir [.name name] = .ok fs') :
    fs.isDirAt (dir ++ [name]) = false ∧ fs' = fs.erase (dir ++ [name]) := by
  unfold unlink at h
  rw [slot_name] at h
  split_ifs at h
  dsimp only at h
  split at h
  · cases h
  · cases h
  · rename_i node hnodir hl
    refine ⟨?_, (Except.ok.inj h).symm⟩
    unfold isDirAt
    rw [hl]
    cases node with
    | dir mode => exact absurd rfl (hnodir mode)
    | _ => rfl

theorem WellFormed.put_of_create (h : fs.WellFormed) (hname : ∀ n ∈ dir ++ [name], IsEntryName n)
    (hc : fs.create dir [.name name] node = .ok fs') : Put fs (dir ++ [name]) node fs' := by
  obtain ⟨hdir, hfree, rfl⟩ := create_name_eq_ok hc
  refine h.put_insert hname hdir fun hd => ?_
  obtain ⟨mode, hl⟩ := isDirAt_iff.1 hd
  rw [hfree] at hl
  cases hl

theorem WellFormed.put_of_overwrite (h : fs.WellFormed)
    (hname : ∀ n ∈ dir ++ [name], IsEntryName n) (ho : fs.overwrite dir name node = .ok fs') :
    Put fs (dir ++ [name]) node fs' := by
  unfold overwrite at ho
  split at ho
  · rename_i hc
    exact Except.ok.inj ho ▸ h.put_of_create hname hc
  · split at ho
    · cases ho
    · rename_i hu
      obtain ⟨hnodir, rfl⟩ := unlink_name_eq_ok hu
      exact h.put_erase hnodir ((h.erase _).put_of_create hname ho)
  · cases ho

theorem WellFormed.put_of_ensureDir (h : fs.WellFormed) {mode : Mode}
    (hname : ∀ n ∈ dir ++ [name], IsEntryName n) (he : fs.ensureDir dir name mode = .ok fs') :
    Put fs (dir ++ [name]) (.dir mode) fs' := by
  unfold ensureDir at he
  split at he
  · rename_i hc
    exact Except.ok.inj he ▸ h.put_of_create hname hc
  · split_ifs at he with hd
    obtain ⟨mode', hl⟩ := isDirAt_iff.1 hd
    have hdir := h.isDirAt_dropLast hl
    rw [List.dropLast_concat] at hdir
    exact Except.ok.inj he ▸ h.put_insert hname hdir fun _ => rfl
  · cases he

/-- Without links on the way an entry is put where its path says. -/
theorem WellFormed.put_of_unpackEntry (h : fs.WellFormed) (hne : entry.path ≠ [])
    (hname : ∀ n ∈ target ++ entry.path, IsEntryName n)
    (hlink : ∀ q, q <+: target ++ entry.path.dropLast → ∀ link, fs.lookup q ≠ some (.link link))
    (hu : fs.unpackEntry target entry = .ok fs') :
    Put fs (target ++ entry.path) entry.stored.unpacked fs' := by
  have hput := (unpackEntry_cases hne hlink hu).2
  rw [← append_dropLast_getLast target hne] at hname ⊢
  rcases hput with ⟨mode, hmode, hput⟩ | hput
  · exact hmode ▸ h.put_of_ensureDir hname hput
  · exact h.put_of_overwrite hname hput

/-! ## All entries -/

/-- What has become of a file system when some entries were put into a directory of it. -/
structure Refilled (before : FileSystem) (target : Place) (done : Archive) (fs : FileSystem) :
    Prop where
  wellFormed : fs.WellFormed
  /-- Nothing outside of the directory is changed. -/
  outside : fs.erase target = before.erase target
  /-- Directories stay directories. -/
  dirs : ∀ q, before.isDirAt q = true → fs.isDirAt q = true
  /-- The directories among the entries are there. -/
  made : ∀ entry ∈ done, ∀ mode, entry.stored = .dir mode →
    fs.isDirAt (target ++ entry.path) = true
  /-- Where no entry leads to everything stands as before. -/
  others : ∀ path, (∀ entry ∈ done, ¬ entry.path <+: path) →
    fs.lookup (target ++ path) = before.lookup (target ++ path)

theorem Refilled.nil (hb : before.WellFormed) : Refilled before target [] before :=
  ⟨hb, rfl, fun _ => id, nofun, fun _ _ => rfl⟩

/-- No link stands on the way to an entry. -/
theorem Refilled.lookup_ne_link (h : Refilled before target done fs)
    (htarget : before.isDirAt target = true)
    (hparents : ∀ path, path ≠ [] → path <+: entry.path → path ≠ entry.path →
      ∃ parent ∈ done, parent.path = path ∧ ∃ mode, parent.stored = .dir mode)
    (hne : entry.path ≠ []) {q : Place} (hq : q <+: target ++ entry.path.dropLast) (link : String) :
    fs.lookup q ≠ some (.link link) := by
  by_cases hup : q <+: target
  · have hresolved := h.wellFormed.resolved (stands_of_isDirAt (h.dirs target htarget))
    exact hresolved.lookup_ne_link hup link
  · obtain ⟨path, rfl⟩ :=
      (List.prefix_or_prefix_of_prefix hq (List.prefix_append target _)).resolve_left hup
    have hpath : path ≠ [] := by
      rintro rfl
      exact hup (by simp)
    have hpre : path <+: entry.path.dropLast := (List.prefix_append_right_inj target).1 hq
    have hproper : path ≠ entry.path := by
      rintro rfl
      have hlen := hpre.length_le
      have hpos := List.length_pos_of_ne_nil hne
      rw [List.length_dropLast] at hlen
      omega
    -- the entry on the way was done before, and made a directory
    obtain ⟨parent, hmem, rfl, mode, hmode⟩ :=
      hparents path hpath (hpre.trans (List.dropLast_prefix _)) hproper
    obtain ⟨mode', hl⟩ := isDirAt_iff.1 (h.made parent hmem mode hmode)
    rw [hl]
    simp

theorem Refilled.concat (h : Refilled before target done fs)
    (hput : Put fs (target ++ entry.path) entry.stored.unpacked fs') :
    Refilled before target (done ++ [entry]) fs' := by
  refine ⟨hput.wellFormed, ?_, fun q hq => hput.dirs q (h.dirs q hq), ?_, ?_⟩
  · rw [hput.within target (List.prefix_append _ _), h.outside]
  · intro entry' he' mode hmode
    rcases List.mem_append.1 he' with he' | he'
    · exact hput.dirs _ (h.made entry' he' mode hmode)
    · obtain rfl := List.mem_singleton.1 he'
      rw [isDirAt_iff, hput.stands, hmode]
      exact ⟨_, rfl⟩
  · intro path hpath
    rw [hput.elsewhere, h.others path fun entry' he' => hpath entry' (List.mem_append_left _ he')]
    exact fun hpre => hpath entry (by simp) ((List.prefix_append_right_inj target).1 hpre)

/-- Unpacking puts the entries into the directory in order, up to a fault or to the end. -/
theorem Refilled.unpack (h : Refilled before target done fs)
    (htarget : before.isDirAt target = true) {archive : Archive}
    (harchive : Archive.WellFormed (done ++ archive))
    (hparents : Archive.ParentsFirst (done ++ archive)) :
    ∃ now rest, archive = now ++ rest ∧
      Refilled before target (done ++ now) (fs.unpack target archive).1 := by
  induction archive generalizing done fs with
  | nil => exact ⟨[], [], rfl, by simpa [FileSystem.unpack] using h⟩
  | cons entry archive ih =>
    unfold FileSystem.unpack
    cases hstep : fs.unpackEntry target entry with
    | error fault => exact ⟨[], entry :: archive, rfl, by simpa using h⟩
    | ok fs' =>
      have hmem : entry ∈ done ++ entry :: archive := by simp
      have hname : ∀ n ∈ target ++ entry.path, IsEntryName n := by
        obtain ⟨mode, hl⟩ := isDirAt_iff.1 (h.dirs target htarget)
        intro n hn
        exact (List.mem_append.1 hn).elim (h.wellFormed.isEntryName hl n)
          (harchive.named entry hmem n)
      have hput := h.wellFormed.put_of_unpackEntry (harchive.nonempty entry hmem) hname
        (fun q => h.lookup_ne_link htarget (hparents done entry archive rfl)
          (harchive.nonempty entry hmem)) hstep
      rw [List.append_cons] at harchive hparents
      obtain ⟨now, rest, rfl, hdone⟩ := ih (h.concat hput) harchive hparents
      exact ⟨entry :: now, rest, rfl, by simpa using hdone⟩

end FileSystem

end ImageBuild
