import ImageBuild.Proofs.Archive.Faults

/-!
# Unpacking once more

An entry whose slot holds already what would be put there leaves everything as it stands
(`lookup_vacate_insert`). So an archive that is unpacked over what an earlier unpacking of it has
left, and over anything that is not in its way, ends as in an empty directory: with the first entry
at fault, and with the entries before it in their places (`Overlaid.unpack`).
-/

namespace ImageBuild

namespace FileSystem

variable {fs fs' before : FileSystem} {dir target p q : Place} {name : Name} {node taken : Node}
  {stored : Stored} {entry : ArchiveEntry} {done : Archive}

/-! ## Slots that are taken -/

/-- What a slot is put into: what is no directory takes the place of what stands there. -/
def vacate (fs : FileSystem) (slot : Place) : Stored → FileSystem
  | .dir _ => fs
  | _ => fs.erase slot

theorem create_name_of_taken (hdir : fs.isDirAt dir = true)
    (hl : fs.lookup (dir ++ [name]) = some taken) (node : Node) :
    fs.create dir [.name name] node =
      if longestName < name.utf8ByteSize then .error .nameTooLong else .error .exists := by
  unfold create
  rw [slot_name, if_neg (by simp [hdir])]
  by_cases hlong : longestName < name.utf8ByteSize
  · rw [if_pos hlong, if_pos hlong]
  · rw [if_neg hlong, if_neg hlong]
    simp only [hl]

theorem ensureDir_of_isDirAt (hdir : fs.isDirAt dir = true)
    (hl : fs.isDirAt (dir ++ [name]) = true) (mode : Mode) :
    fs.ensureDir dir name mode =
      if longestName < name.utf8ByteSize then .error .nameTooLong
      else .ok (fs.insert (dir ++ [name]) (.dir mode)) := by
  obtain ⟨mode', hmode⟩ := isDirAt_iff.1 hl
  unfold ensureDir
  rw [create_name_of_taken hdir hmode]
  by_cases hlong : longestName < name.utf8ByteSize
  · rw [if_pos hlong, if_pos hlong]
  · rw [if_neg hlong, if_neg hlong]
    exact if_pos hl

theorem isDirAt_erase_concat (fs : FileSystem) (dir : Place) (name : Name) :
    (fs.erase (dir ++ [name])).isDirAt dir = fs.isDirAt dir := by
  unfold isDirAt
  rw [lookup_erase, if_neg]
  rintro ⟨-, hpre⟩
  have hlen := hpre.length_le
  rw [List.length_append, List.length_singleton] at hlen
  omega

theorem overwrite_of_taken (hdir : fs.isDirAt dir = true)
    (hl : fs.lookup (dir ++ [name]) = some taken) (hnodir : taken.isDir = false) (node : Node) :
    fs.overwrite dir name node =
      if longestName < name.utf8ByteSize then .error .nameTooLong
      else if node = .link "" then .error .notFound
      else .ok ((fs.erase (dir ++ [name])).insert (dir ++ [name]) node) := by
  unfold overwrite
  rw [create_name_of_taken hdir hl]
  by_cases hlong : longestName < name.utf8ByteSize
  · rw [if_pos hlong, if_pos hlong]
  · rw [if_neg hlong, if_neg hlong]
    have hunlink : fs.unlink dir [.name name] = .ok (fs.erase (dir ++ [name])) := by
      unfold unlink
      rw [slot_name, if_neg (by simp [hdir]), if_neg hlong]
      dsimp only
      rw [hl]
      cases taken with
      | dir => cases hnodir
      | _ => rfl
    have hfree : (fs.erase (dir ++ [name])).lookup (dir ++ [name]) = none := by
      rw [lookup_erase, if_pos ⟨by simp, List.prefix_rfl⟩]
    dsimp only
    rw [hunlink]
    dsimp only
    rw [create_name_of_free ((isDirAt_erase_concat fs dir name).trans hdir) hfree, if_neg hlong]

/-- What is stored is put where it stands already. -/
theorem put_of_taken (hdir : fs.isDirAt dir = true)
    (hl : fs.lookup (dir ++ [name]) = some stored.unpacked) :
    (match stored with
      | .dir mode => fs.ensureDir dir name (unpackedMode mode)
      | .link link => fs.overwrite dir name (.link link)
      | .file content mode seconds =>
        fs.overwrite dir name (.file content (unpackedMode mode) (unpackedTime seconds))) =
      if longestName < name.utf8ByteSize then .error .nameTooLong
      else if stored = .link "" then .error .notFound
      else .ok ((fs.vacate (dir ++ [name]) stored).insert (dir ++ [name]) stored.unpacked) := by
  have hempty : stored = .link "" ↔ stored.unpacked = .link "" := Stored.unpacked_eq_link_iff.symm
  rw [if_congr hempty rfl rfl]
  cases stored with
  | dir mode => exact ensureDir_of_isDirAt hdir (isDirAt_iff.2 ⟨_, hl⟩) _
  | _ => exact overwrite_of_taken hdir hl rfl _

/-! ## Entries over what is there -/

/-- A slot takes an entry if it is free, or holds already what comes of the entry. -/
def Takes (fs : FileSystem) (target : Place) (entry : ArchiveEntry) : Prop :=
  fs.lookup (target ++ entry.path) = none ∨
    fs.lookup (target ++ entry.path) = some entry.stored.unpacked

/-- An entry is put into a slot that takes it, unless it is at fault. -/
theorem WellFormed.unpackEntry_of_takes (h : fs.WellFormed) (hne : entry.path ≠ [])
    (hdir : fs.isDirAt (target ++ entry.path.dropLast) = true) (htakes : fs.Takes target entry) :
    fs.unpackEntry target entry =
      match entry.fault? target with
      | some fault => .error fault
      | none => .ok ((fs.vacate (target ++ entry.path) entry.stored).insert
        (target ++ entry.path) entry.stored.unpacked) := by
  rcases htakes with hfree | hl
  · have hvacate : fs.vacate (target ++ entry.path) entry.stored = fs := by
      cases entry.stored with
      | dir => rfl
      | _ => exact h.erase_of_free hfree
    rw [hvacate]
    exact h.unpackEntry_eq hne hdir hfree
  · rw [← append_dropLast_getLast target hne] at hl ⊢
    exact h.unpackEntry_eq_of_put hne hdir (put_of_taken hdir hl)

/-- Nothing but the slot changes. -/
theorem WellFormed.lookup_vacate_insert (h : fs.WellFormed) (hp : p ≠ [])
    (htaken : fs.lookup p = none ∨ fs.lookup p = some stored.unpacked) (q : Place) :
    ((fs.vacate p stored).insert p stored.unpacked).lookup q =
      if q = p then some stored.unpacked else fs.lookup q := by
  rw [lookup_insert _ _ hp]
  split_ifs with hq
  · rfl
  · -- what is erased below the slot was not there
    have herase (hnodir : ∀ mode, stored.unpacked ≠ .dir mode) :
        (fs.erase p).lookup q = fs.lookup q := by
      rw [lookup_erase]
      split_ifs with hpre
      · rw [eq_comm, Option.eq_none_iff_forall_ne_some]
        intro node hl
        obtain ⟨mode, hm⟩ := isDirAt_iff.1 (h.isDirAt_of_prefix hl hpre.2 (Ne.symm hq))
        rcases htaken with hnone | hsame
        · rw [hnone] at hm
          cases hm
        · rw [hsame] at hm
          exact hnodir mode (Option.some.inj hm)
      · rfl
    cases stored with
    | dir => rfl
    | _ => exact herase nofun

/-! ## Archives over what is there -/

/-- What has become of a file system when some entries were put into a directory of it, and nothing
was in their way but what comes of them. -/
structure Overlaid (before : FileSystem) (target : Place) (done : Archive) (fs : FileSystem) :
    Prop where
  wellFormed : fs.WellFormed
  /-- Nothing outside of the directory is changed. -/
  outside : fs.erase target = before.erase target
  /-- The entries are there. -/
  made : ∀ entry ∈ done, fs.lookup (target ++ entry.path) = some entry.stored.unpacked
  /-- Everything else stands as before. -/
  others : ∀ q, (∀ entry ∈ done, target ++ entry.path ≠ q) → fs.lookup q = before.lookup q

theorem Overlaid.nil (hb : before.WellFormed) : Overlaid before target [] before :=
  ⟨hb, rfl, nofun, fun _ _ => rfl⟩

/-- The directory of an entry is there when its turn comes. -/
theorem Overlaid.isDirAt_dropLast (h : Overlaid before target done fs)
    (htarget : before.isDirAt target = true) (hdone : ∀ entry ∈ done, entry.path ≠ [])
    (hne : entry.path ≠ [])
    (hparents : ∀ path, path ≠ [] → path <+: entry.path → path ≠ entry.path →
      ∃ parent ∈ done, parent.path = path ∧ ∃ mode, parent.stored = .dir mode) :
    fs.isDirAt (target ++ entry.path.dropLast) = true := by
  by_cases hpath : entry.path.dropLast = []
  · unfold isDirAt at htarget ⊢
    rwa [hpath, List.append_nil, h.others target fun entry' he' => by simpa using hdone entry' he']
  · have hproper : entry.path.dropLast ≠ entry.path := by
      intro he
      have hlen := congrArg List.length he
      have hpos := List.length_pos_of_ne_nil hne
      rw [List.length_dropLast] at hlen
      omega
    obtain ⟨parent, hmem, hparent, mode, hmode⟩ :=
      hparents _ hpath (List.dropLast_prefix _) hproper
    rw [isDirAt_iff, ← hparent, h.made parent hmem, hmode]
    exact ⟨_, rfl⟩

/-- One more entry. -/
theorem Overlaid.concat (h : Overlaid before target done fs)
    (harchive : Archive.WellFormed (done ++ [entry]))
    (hdir : fs.isDirAt (target ++ entry.path.dropLast) = true) (htakes : fs.Takes target entry)
    (hfault : entry.fault? target = none) :
    ∃ fs', fs.unpackEntry target entry = .ok fs' ∧
      Overlaid before target (done ++ [entry]) fs' := by
  have hlast : entry ∈ done ++ [entry] := by simp
  have hne : entry.path ≠ [] := harchive.nonempty entry hlast
  have hresolved := h.wellFormed.resolved (stands_of_isDirAt hdir)
  have hname : ∀ n ∈ target ++ entry.path, IsEntryName n := by
    intro n hn
    rcases List.mem_append.1 hn with hn | hn
    · exact hresolved.named n (List.mem_append_left _ hn)
    · exact harchive.named entry hlast n hn
  have hstep := h.wellFormed.unpackEntry_of_takes hne hdir htakes
  rw [hfault] at hstep
  have hput := h.wellFormed.put_of_unpackEntry hne hname
    (fun q hq => hresolved.lookup_ne_link hq) hstep
  have hlookup := h.wellFormed.lookup_vacate_insert (by simp [hne]) htakes
  refine ⟨_, hstep, hput.wellFormed, ?_, ?_, ?_⟩
  · rw [hput.within target (List.prefix_append _ _), h.outside]
  · intro entry' he'
    rcases List.mem_append.1 he' with he' | he'
    · rw [hlookup, if_neg (by simpa using harchive.path_ne he'), h.made entry' he']
    · obtain rfl := List.mem_singleton.1 he'
      rw [hlookup, if_pos rfl]
  · intro q hq
    rw [hlookup, if_neg (Ne.symm (hq entry hlast)),
      h.others q fun entry' he' => hq entry' (List.mem_append_left _ he')]

/-- Unpacking over what is in nobody's way ends with the first entry at fault. -/
theorem Overlaid.unpack (h : Overlaid before target done fs)
    (htarget : before.isDirAt target = true) {archive : Archive}
    (harchive : Archive.WellFormed (done ++ archive))
    (hparents : Archive.ParentsFirst (done ++ archive))
    (htakes : ∀ entry ∈ archive, before.Takes target entry) :
    Overlaid before target
        (done ++ archive.takeWhile fun entry => (entry.fault? target).isNone)
        (fs.unpack target archive).1 ∧
      (fs.unpack target archive).2 = archive.findSome? (ArchiveEntry.fault? target) := by
  induction archive generalizing done fs with
  | nil => exact ⟨by simpa [FileSystem.unpack] using h, rfl⟩
  | cons entry archive ih =>
    have hmem : entry ∈ done ++ entry :: archive := by simp
    have hne := harchive.nonempty entry hmem
    have hpart : Archive.WellFormed (done ++ [entry]) :=
      harchive.of_sublist (List.IsPrefix.sublist (by simp))
    have hdir := h.isDirAt_dropLast htarget
      (fun entry' he' => harchive.nonempty entry' (List.mem_append_left _ he')) hne
      (hparents done entry archive rfl)
    have hslot : fs.Takes target entry := by
      unfold Takes
      rw [h.others _ fun entry' he' => by simpa using hpart.path_ne he']
      exact htakes entry List.mem_cons_self
    unfold FileSystem.unpack
    rw [List.findSome?_cons, List.takeWhile_cons]
    cases hfault : entry.fault? target with
    | some fault =>
      have hstep := h.wellFormed.unpackEntry_of_takes hne hdir hslot
      rw [hfault] at hstep
      rw [hstep]
      exact ⟨by simpa using h, rfl⟩
    | none =>
      obtain ⟨fs', hstep, hnext⟩ := h.concat hpart hdir hslot hfault
      rw [List.append_cons] at harchive hparents
      rw [hstep]
      have hrest := ih hnext harchive hparents fun entry' he' =>
        htakes entry' (List.mem_cons_of_mem entry he')
      rwa [List.append_assoc, List.singleton_append] at hrest

end FileSystem

end ImageBuild
