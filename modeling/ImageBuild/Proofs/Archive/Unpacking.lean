import ImageBuild.Proofs.Archive.Contents

/-!
# Unpacking into an empty directory

The entries of an archive put into an empty directory never replace anything, because their paths
differ, and never go through a link, because an entry on the way to another one is a directory. So
at every moment the directory holds exactly the entries done so far, and nothing outside of it has
changed (`Unpacked.unpack`).
-/

namespace ImageBuild

/-- What unpacking makes of what is stored. -/
def Stored.unpacked : Stored → Node
  | .file content mode seconds => .file content (unpackedMode mode) (unpackedTime seconds)
  | .dir mode => .dir (unpackedMode mode)
  | .link target => .link target

namespace FileSystem

variable {fs fs' before : FileSystem} {dir target : Place} {name : Name} {node : Node}
  {entry : ArchiveEntry} {done : Archive}

/-! ## Free slots -/

theorem slot_name (fs : FileSystem) (dir : Place) (name : Name) : fs.slot dir [.name name] =
    if !fs.isDirAt dir then .error .notADirectory
    else if longestName < name.utf8ByteSize then .error .nameTooLong
    else .ok (dir ++ [name]) := by
  have hf : fs.follow dir [] = .ok dir := by
    unfold follow walk
    rw [advance]
    rfl
  unfold slot
  simp only [List.reverse_cons, List.reverse_nil, List.nil_append, hf]

/-- Into a free slot a node is put, unless that fails for another reason than that something is
there. -/
theorem create_name_cases (hfree : fs.lookup (dir ++ [name]) = none) (node : Node) :
    (∃ fault, fault ≠ .exists ∧ fs.create dir [.name name] node = .error fault) ∨
      fs.isDirAt dir = true ∧
        fs.create dir [.name name] node = .ok (fs.insert (dir ++ [name]) node) := by
  unfold create
  rw [slot_name]
  by_cases hd : fs.isDirAt dir = true
  · rw [if_neg (by simpa using hd)]
    by_cases hlong : longestName < name.utf8ByteSize
    · rw [if_pos hlong]
      exact Or.inl ⟨_, by simp, rfl⟩
    · rw [if_neg hlong]
      simp only [hfree]
      by_cases hnode : node = .link ""
      · exact Or.inl ⟨.notFound, by simp, if_pos hnode⟩
      · exact Or.inr ⟨hd, if_neg hnode⟩
  · rw [if_pos (by simpa using hd)]
    exact Or.inl ⟨_, by simp, rfl⟩

/-- What is done when something is there already does not matter for a free slot. -/
theorem create_of_retry {retry : Except FileFault FileSystem}
    (hfree : fs.lookup (dir ++ [name]) = none)
    (h : (match fs.create dir [.name name] node with
      | .ok fs' => (.ok fs' : Except FileFault FileSystem)
      | .error .exists => retry
      | .error fault => .error fault) = .ok fs') :
    fs.isDirAt dir = true ∧ fs' = fs.insert (dir ++ [name]) node := by
  rcases create_name_cases hfree node with ⟨fault, hne, hc⟩ | ⟨hd, hc⟩
  · rw [hc] at h
    split at h
    · cases ‹Except.error fault = _›
    · rename_i he
      exact absurd (Except.error.inj he) hne
    · cases h
  · rw [hc] at h
    exact ⟨hd, (Except.ok.inj h).symm⟩

theorem overwrite_of_free (hfree : fs.lookup (dir ++ [name]) = none)
    (h : fs.overwrite dir name node = .ok fs') :
    fs.isDirAt dir = true ∧ fs' = fs.insert (dir ++ [name]) node := by
  unfold overwrite at h
  exact create_of_retry hfree h

theorem ensureDir_of_free {mode : Mode} (hfree : fs.lookup (dir ++ [name]) = none)
    (h : fs.ensureDir dir name mode = .ok fs') :
    fs.isDirAt dir = true ∧ fs' = fs.insert (dir ++ [name]) (.dir mode) := by
  unfold ensureDir at h
  exact create_of_retry hfree h

/-! ## One entry -/

/-- Without links on the way an entry goes where its path says. -/
theorem eq_of_unpackParent {path : List Name} {parent : Place}
    (hlink : ∀ q, q <+: target ++ path.dropLast → ∀ link, fs.lookup q ≠ some (.link link))
    (h : fs.unpackParent target path = .ok parent) : parent = target ++ path.dropLast := by
  unfold unpackParent at h
  split at h
  · cases h
  · rename_i parent' hf
    have hparent : parent' = target ++ path.dropLast := by
      have hw := Destination.existing_eq_ok_iff.1 hf
      rcases walk_names_cases (p := []) none linkLimit
          (fun r hr _ link => hlink r hr link) with ⟨fault, he⟩ | ⟨-, -, -, he⟩ | ⟨-, he⟩
      · simp [he] at hw
      · simp [he] at hw
      · rw [he] at hw
        exact (Destination.found.inj hw).symm
    split at h
    · cases h
    · split_ifs at h
      · exact (Except.ok.inj h).symm.trans hparent

/-- Without links on the way an entry goes into the slot that its path says: a directory is made
there if there is none, and anything else replaces what is there. -/
theorem unpackEntry_cases (hne : entry.path ≠ [])
    (hlink : ∀ q, q <+: target ++ entry.path.dropLast → ∀ link, fs.lookup q ≠ some (.link link))
    (h : fs.unpackEntry target entry = .ok fs') :
    (Place.text (target ++ entry.path)).utf8ByteSize < pathLimit ∧
      ((∃ mode, entry.stored.unpacked = .dir mode ∧
          fs.ensureDir (target ++ entry.path.dropLast) (entry.path.getLast hne) mode = .ok fs') ∨
        fs.overwrite (target ++ entry.path.dropLast) (entry.path.getLast hne)
          entry.stored.unpacked = .ok fs') := by
  unfold unpackEntry at h
  rw [List.getLast?_eq_some_getLast hne] at h
  dsimp only at h
  split_ifs at h with hlong
  refine ⟨by omega, ?_⟩
  split at h
  · cases h
  · rename_i parent hparent
    rw [eq_of_unpackParent hlink hparent] at h
    split at h
    · rename_i mode hs
      exact Or.inl ⟨unpackedMode mode, by rw [hs]; rfl, h⟩
    · rename_i link hs
      rw [hs]
      exact Or.inr h
    · rename_i content mode seconds hs
      rw [hs]
      exact Or.inr h

theorem append_dropLast_getLast {path : List Name} (target : Place) (hne : path ≠ []) :
    target ++ path.dropLast ++ [path.getLast hne] = target ++ path := by
  rw [List.append_assoc, List.dropLast_append_getLast hne]

/-- An entry whose slot is free is put there. -/
theorem unpackEntry_of_free (hne : entry.path ≠ [])
    (hlink : ∀ q, q <+: target ++ entry.path.dropLast → ∀ link, fs.lookup q ≠ some (.link link))
    (hfree : fs.lookup (target ++ entry.path) = none)
    (h : fs.unpackEntry target entry = .ok fs') :
    fs.isDirAt (target ++ entry.path.dropLast) = true ∧
      (Place.text (target ++ entry.path)).utf8ByteSize < pathLimit ∧
      fs' = fs.insert (target ++ entry.path) entry.stored.unpacked := by
  obtain ⟨hlong, hput⟩ := unpackEntry_cases hne hlink h
  rw [← append_dropLast_getLast target hne] at hfree ⊢
  rcases hput with ⟨mode, hmode, hput⟩ | hput
  · obtain ⟨hdir, rfl⟩ := ensureDir_of_free hfree hput
    exact ⟨hdir, by rwa [append_dropLast_getLast], by rw [hmode]⟩
  · obtain ⟨hdir, rfl⟩ := overwrite_of_free hfree hput
    exact ⟨hdir, by rwa [append_dropLast_getLast], rfl⟩

/-! ## All entries -/

/-- What has become of a file system when some entries were put into an empty directory of it. -/
structure Unpacked (before : FileSystem) (target : Place) (done : Archive) (fs : FileSystem) :
    Prop where
  wellFormed : fs.WellFormed
  /-- Nothing outside of the directory is changed. -/
  outside : ∀ q, ¬ (target <+: q ∧ q ≠ target) → fs.lookup q = before.lookup q
  /-- The directory holds the entries and nothing else. -/
  inside : ∀ path, path ≠ [] → ∀ node, fs.lookup (target ++ path) = some node ↔
    ∃ entry ∈ done, entry.path = path ∧ entry.stored.unpacked = node
  short : ∀ entry ∈ done, (Place.text (target ++ entry.path)).utf8ByteSize < pathLimit

/-- Nothing is unpacked yet. -/
theorem Unpacked.nil (hb : before.WellFormed)
    (hempty : ∀ path, path ≠ [] → before.lookup (target ++ path) = none) :
    Unpacked before target [] before := by
  refine ⟨hb, fun _ _ => rfl, fun path hne node => ?_, nofun⟩
  rw [hempty path hne]
  simp

/-- No link stands on the way to an entry. -/
theorem Unpacked.lookup_ne_link (h : Unpacked before target done fs)
    (htarget : before.Resolved target) (harchive : Archive.WellFormed (done ++ [entry]))
    {q : Place} (hq : q <+: target ++ entry.path.dropLast) (link : String) :
    fs.lookup q ≠ some (.link link) := by
  intro hl
  -- below the directory only entries stand, and those on the way are directories; up to the
  -- directory nothing has changed
  by_cases hin : target <+: q ∧ q ≠ target
  · obtain ⟨⟨path, rfl⟩, hpne⟩ := hin
    have hne : path ≠ [] := by simpa using hpne
    obtain ⟨entry', he', hpath, hstored⟩ := (h.inside path hne _).1 hl
    have hpre : path <+: entry.path.dropLast := (List.prefix_append_right_inj target).1 hq
    have hlast : entry ∈ done ++ [entry] := by simp
    obtain ⟨mode, hm⟩ := harchive.way entry' (List.mem_append_left _ he') entry hlast
      (hpath ▸ hpre.trans (List.dropLast_prefix _)) (by
        rw [hpath]
        intro e
        have hlen := hpre.length_le
        have hpos := List.length_pos_of_ne_nil (harchive.nonempty entry hlast)
        rw [e, List.length_dropLast] at hlen
        omega)
    rw [hm] at hstored
    cases hstored
  · rw [h.outside q hin] at hl
    by_cases hqt : q = target
    · exact htarget.lookup_ne_link (hqt ▸ List.prefix_rfl) link hl
    · have hpre : q <+: target :=
        (List.prefix_or_prefix_of_prefix hq (List.prefix_append _ _)).resolve_right
          fun hp => hin ⟨hp, hqt⟩
      exact htarget.lookup_ne_link hpre link hl

/-- The slot of an entry is free when its turn comes. -/
theorem Unpacked.lookup_eq_none (h : Unpacked before target done fs)
    (harchive : Archive.WellFormed (done ++ [entry])) : fs.lookup (target ++ entry.path) = none := by
  rcases hl : fs.lookup (target ++ entry.path) with _ | node
  · rfl
  · have hne : entry.path ≠ [] := harchive.nonempty entry (by simp)
    obtain ⟨entry', he', hpath, -⟩ := (h.inside _ hne _).1 hl
    exact absurd hpath (harchive.path_ne he')

/-- One more entry. -/
theorem Unpacked.concat (h : Unpacked before target done fs) (htarget : before.Resolved target)
    (harchive : Archive.WellFormed (done ++ [entry]))
    (hstep : fs.unpackEntry target entry = .ok fs') :
    Unpacked before target (done ++ [entry]) fs' := by
  have hlast : entry ∈ done ++ [entry] := by simp
  have hne : entry.path ≠ [] := harchive.nonempty entry hlast
  have hfree := h.lookup_eq_none harchive
  obtain ⟨hd, hshort, rfl⟩ := unpackEntry_of_free hne (fun q hq => h.lookup_ne_link htarget harchive hq)
    hfree hstep
  have hplace : target ++ entry.path ≠ [] := by simp [hne]
  have hparent : (target ++ entry.path).dropLast = target ++ entry.path.dropLast :=
    List.dropLast_append_of_ne_nil hne
  refine ⟨?_, ?_, ?_, ?_⟩
  · refine h.wellFormed.insert hplace ?_ (hparent ▸ hd) ?_
    · intro name hname
      rcases List.mem_append.1 hname with hname | hname
      · exact htarget.named name hname
      · exact harchive.named entry hlast name hname
    · intro hdir
      obtain ⟨mode, hm⟩ := isDirAt_iff.1 hdir
      rw [hfree] at hm
      cases hm
  · intro q hq
    rw [lookup_insert_of_ne fs _ hplace, h.outside q hq]
    rintro rfl
    exact hq ⟨List.prefix_append _ _, by simpa using hne⟩
  · intro path hpath node
    by_cases hp : path = entry.path
    · subst hp
      -- the slot was free, so no entry before has the same path
      have hnot : ¬ ∃ entry' ∈ done, entry'.path = entry.path ∧ entry'.stored.unpacked = node := by
        intro hex
        rw [(h.inside _ hne node).2 hex] at hfree
        cases hfree
      rw [lookup_insert_self fs _ hplace, Option.some.injEq]
      constructor
      · exact fun e => ⟨entry, hlast, rfl, e⟩
      · rintro ⟨entry', he', hpath', hnode⟩
        rcases List.mem_append.1 he' with he' | he'
        · exact absurd ⟨entry', he', hpath', hnode⟩ hnot
        · rwa [List.mem_singleton.1 he'] at hnode
    · rw [lookup_insert_of_ne fs _ hplace (by simpa using hp), h.inside path hpath]
      constructor
      · rintro ⟨entry', he', hpath', hnode⟩
        exact ⟨entry', List.mem_append_left _ he', hpath', hnode⟩
      · rintro ⟨entry', he', hpath', hnode⟩
        rcases List.mem_append.1 he' with he' | he'
        · exact ⟨entry', he', hpath', hnode⟩
        · rw [List.mem_singleton.1 he'] at hpath'
          exact absurd hpath'.symm hp
  · intro entry' he'
    rcases List.mem_append.1 he' with he' | he'
    · exact h.short entry' he'
    · rwa [List.mem_singleton.1 he']

/-- Unpacking puts the entries into the directory in order, up to a fault or to the end. -/
theorem Unpacked.unpack (h : Unpacked before target done fs) (htarget : before.Resolved target)
    {archive : Archive} (harchive : Archive.WellFormed (done ++ archive)) :
    ∃ now rest, archive = now ++ rest ∧
      Unpacked before target (done ++ now) (fs.unpack target archive).1 ∧
      ((fs.unpack target archive).2 = none → rest = []) := by
  induction archive generalizing done fs with
  | nil => exact ⟨[], [], rfl, by simpa [FileSystem.unpack] using h, fun _ => rfl⟩
  | cons entry archive ih =>
    unfold FileSystem.unpack
    cases hstep : fs.unpackEntry target entry with
    | error fault => exact ⟨[], entry :: archive, rfl, by simpa using h, fun he => nomatch he⟩
    | ok fs' =>
      have hpart : Archive.WellFormed (done ++ [entry]) :=
        harchive.of_sublist (List.IsPrefix.sublist (by simp))
      rw [List.append_cons] at harchive
      obtain ⟨now, rest, rfl, hdone, hrest⟩ := ih (h.concat htarget hpart hstep) harchive
      exact ⟨entry :: now, rest, rfl, by simpa using hdone, hrest⟩

end FileSystem

end ImageBuild
