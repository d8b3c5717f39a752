import Mathlib.Data.List.Nodup
import ImageBuild.Builder.Basic
import ImageBuild.Proofs.FileSystem.WellFormed
import ImageBuild.Proofs.Numbering
import ImageBuild.Proofs.World

/-!
# Working directories

A new working directory is empty and nothing of the files around it is changed (`Allocated`), because
its name is one that nothing else has: among one name more than there are nodes, one is free
(`lookup_freeNumber`). Getting and giving up working directories only concerns files.
-/

namespace ImageBuild

namespace Builder

variable {σ : Type} {fs : FileSystem} {w : World σ} {b : Builder} {place : Place}

/-! ## Names of working directories -/

theorem workdirName_toList (n : Nat) :
    (workdirName n).toList = paddedName workdirPrefix.toList 6 n := by
  unfold workdirName paddedName
  simp

theorem workdirName_injective : Function.Injective workdirName := by
  intro m n h
  apply paddedName_injective workdirPrefix.toList 6
  rw [← workdirName_toList, ← workdirName_toList, h]

theorem mem_or_isDigit_of_mem_workdirName {n : Nat} {c : Char} (hc : c ∈ (workdirName n).toList) :
    c ∈ workdirPrefix.toList ∨ c.isDigit = true := by
  rw [workdirName_toList, paddedName, List.mem_append, List.mem_append] at hc
  rcases hc with hc | hc | hc
  · exact Or.inl hc
  · rw [List.eq_of_mem_replicate hc]
    exact Or.inr (by decide)
  · exact Or.inr (Nat.isDigit_of_mem_toDigits (by decide) (by decide) hc)

theorem isEntryName_workdirName (n : Nat) : IsEntryName (workdirName n) := by
  have hlong : workdirPrefix.toList.length ≤ (workdirName n).toList.length := by
    rw [workdirName_toList, paddedName, List.length_append]
    omega
  have hsize : workdirPrefix.toList.length = 13 := by decide +kernel
  refine ⟨?_, ?_, ?_, ?_, ?_⟩
  · intro h
    rw [h] at hlong
    simp [hsize] at hlong
  · intro h
    rw [h, hsize] at hlong
    exact absurd hlong (by decide)
  · intro h
    rw [h, hsize] at hlong
    exact absurd hlong (by decide)
  · intro h
    rcases mem_or_isDigit_of_mem_workdirName h with h | h
    · exact absurd h (by decide +kernel)
    · exact absurd h (by decide)
  · intro h
    rcases mem_or_isDigit_of_mem_workdirName h with h | h
    · exact absurd h (by decide +kernel)
    · exact absurd h (by decide)

/-- The name of the free number is free: there are more names to choose from than nodes. -/
theorem lookup_freeNumber (fs : FileSystem) (dir : Place) (serial : Nat) :
    fs.lookup (dir ++ [workdirName (freeNumber fs dir serial)]) = none := by
  unfold freeNumber
  cases hf : (List.range (fs.nodes.length + 1)).find?
      fun k => (fs.lookup (dir ++ [workdirName (serial + k)])).isNone with
  | some k =>
    have hk := List.find?_some hf
    simpa [hf] using hk
  | none =>
    -- otherwise all of these names are taken, each by a node of its own
    let taken := (List.range (fs.nodes.length + 1)).map fun k => dir ++ [workdirName (serial + k)]
    have hnodup : taken.Nodup := by
      refine List.Nodup.map ?_ List.nodup_range
      intro k k' h
      have := workdirName_injective (by simpa using h)
      omega
    have hsub : taken ⊆ fs.nodes.map (·.1) := by
      intro p hp
      obtain ⟨k, hk, rfl⟩ := List.mem_map.1 hp
      have hsome := List.find?_eq_none.1 hf k hk
      rw [fs.lookup_of_ne_root (by simp), Bool.not_eq_true, Option.isNone_eq_false_iff,
        List.lookup_isSome_iff] at hsome
      obtain ⟨entry, hmem, he⟩ := hsome
      exact beq_iff_eq.1 he ▸ List.mem_map_of_mem hmem
    have hlen := hnodup.length_le_of_subset hsub
    rw [List.length_map, List.length_map, List.length_range] at hlen
    omega

/-! ## Getting and giving up working directories -/

/-- A new, empty working directory, around which nothing is changed. -/
structure Allocated (before : FileSystem) (place : Place) (after : FileSystem) : Prop where
  isDir : after.isDirAt place = true
  empty : ∀ path, path ≠ [] → after.lookup (place ++ path) = none
  unchanged : ∀ q, q ≠ place → after.lookup q = before.lookup q
  /-- Nothing stood at the place before. -/
  free : before.lookup place = none
  length_lt : place.text.utf8ByteSize < pathLimit

theorem quiet_allocate (w : World σ) : w.Quiet (allocate w).1 := by
  unfold allocate
  split
  · exact .refl w
  · split
    · exact .refl w
    · dsimp only
      split
      · exact .refl w
      · exact ⟨rfl, rfl, rfl⟩

theorem quiet_release (b : Builder) (w : World σ) : w.Quiet (b.release w).2 := by
  unfold release
  split
  · exact .refl w
  · dsimp only
    split
    · exact ⟨rfl, rfl, rfl⟩
    · exact w.quiet_log _

theorem quiet_close (b : Builder) (w : World σ) : w.Quiet (b.close w) := by
  unfold close
  split
  · exact .refl w
  · split
    · exact ⟨rfl, rfl, rfl⟩
    · exact .refl w

theorem quiet_clean (b : Builder) (w : World σ) : w.Quiet (b.clean w).2.1 := by
  unfold clean
  dsimp only
  have h := (quiet_release b w).trans (quiet_allocate (b.release w).2)
  split
  · rename_i ha
    rwa [ha] at h
  · rename_i ha
    rwa [ha] at h

theorem quiet_setup (settings : Settings σ) (b : Builder) (w : World σ) :
    w.Quiet (setup settings b w).1 := by
  unfold setup
  split
  · exact .refl w
  · split
    · exact .refl w
    · split
      · exact .refl w
      · dsimp only
        split
        · exact ⟨rfl, rfl, rfl⟩
        · exact ⟨rfl, rfl, rfl⟩

theorem quiet_of_clean {b' : Builder} {w' : World σ} {result : Except BuildError Unit}
    (h : b.clean w = (b', w', result)) : w.Quiet w' := by
  have hquiet := quiet_clean b w
  rwa [h] at hquiet

theorem quiet_of_setup {settings : Settings σ} {w' : World σ} {result : Except BuildError Unit}
    (h : setup settings b w = (w', result)) : w.Quiet w' := by
  have hquiet := quiet_setup settings b w
  rwa [h] at hquiet

theorem workdir_release (b : Builder) (w : World σ) : (b.release w).1.workdir = none := by
  unfold release
  split
  · assumption
  · rfl

theorem removeWorkdir_of_isDirAt (h : fs.isDirAt place = true) :
    removeWorkdir fs place = .ok (fs.erase place) := by
  obtain ⟨mode, hl⟩ := FileSystem.isDirAt_iff.1 h
  unfold removeWorkdir
  rw [hl]

theorem wellFormed_removeWorkdir {files : FileSystem} (h : fs.WellFormed)
    (hr : removeWorkdir fs place = .ok files) : files.WellFormed := by
  unfold removeWorkdir at hr
  split at hr
  · cases hr
  · exact Except.ok.inj hr ▸ h.erase place
  · exact Except.ok.inj hr ▸ h.erase place
  · cases hr

theorem wellFormed_release (b : Builder) (h : w.files.WellFormed) :
    (b.release w).2.files.WellFormed := by
  unfold release
  split
  · exact h
  · dsimp only
    split
    · rename_i hr
      exact wellFormed_removeWorkdir h hr
    · exact h

theorem le_freeNumber (fs : FileSystem) (dir : Place) (serial : Nat) :
    serial ≤ freeNumber fs dir serial := by
  unfold freeNumber
  exact Nat.le_add_right _ _

/-- A new working directory has the first name that is free. -/
theorem allocate_eq_ok {w' : World σ} (ha : allocate w = (w', .ok place)) :
    ∃ dir, w.files.resolve w.cwd w.temp = .ok dir ∧ w.files.isDirAt dir = true ∧
      place = dir ++ [workdirName (freeNumber w.files dir w.serial)] ∧
      place.text.utf8ByteSize < pathLimit ∧
      w' = { w with
        files := w.files.insert place (.dir workdirMode)
        serial := freeNumber w.files dir w.serial + 1 } := by
  unfold allocate at ha
  split at ha
  · cases ha
  · rename_i dir hdir
    dsimp only at ha
    split_ifs at ha with hnodir hlong
    · cases ha
    · cases ha
    · obtain ⟨rfl, hplace⟩ := Prod.mk.inj ha
      obtain rfl := Except.ok.inj hplace
      exact ⟨dir, hdir, by simpa using hnodir, rfl, by omega, rfl⟩

theorem allocate_eq_error {w' : World σ} {fault : FileFault}
    (ha : allocate w = (w', .error fault)) : w' = w := by
  unfold allocate at ha
  split at ha
  · exact (Prod.mk.inj ha).1.symm
  · dsimp only at ha
    split_ifs at ha
    · exact (Prod.mk.inj ha).1.symm
    · exact (Prod.mk.inj ha).1.symm
    · cases ha

theorem allocated_of_allocate {w' : World σ} (h : w.files.WellFormed)
    (ha : allocate w = (w', .ok place)) :
    w'.files.WellFormed ∧ Allocated w.files place w'.files := by
  obtain ⟨dir, -, hisDir, rfl, hlong, rfl⟩ := allocate_eq_ok ha
  have hne : dir ++ [workdirName (freeNumber w.files dir w.serial)] ≠ [] := by simp
  have hfree := lookup_freeNumber w.files dir w.serial
  obtain ⟨mode, hmode⟩ := FileSystem.isDirAt_iff.1 hisDir
  refine ⟨?_, ?_, ?_, ?_, hfree, hlong⟩
  · refine h.insert hne ?_ (by rwa [List.dropLast_concat]) fun _ => rfl
    intro name hname
    rcases List.mem_append.1 hname with hname | hname
    · exact h.isEntryName hmode name hname
    · exact List.mem_singleton.1 hname ▸ isEntryName_workdirName _
  · rw [FileSystem.isDirAt_iff]
    exact ⟨_, FileSystem.lookup_insert_self _ _ hne⟩
  · intro path hpath
    rw [FileSystem.lookup_insert_of_ne _ _ hne (by simpa using hpath)]
    exact h.lookup_eq_none_of_prefix hfree (List.prefix_append _ _)
  · exact fun q hq => FileSystem.lookup_insert_of_ne _ _ hne hq

/-- Getting a working directory that succeeds gives up the one before it and makes a new one. -/
theorem allocate_of_clean {b' : Builder} {w' : World σ} (hc : b.clean w = (b', w', .ok ())) :
    ∃ place, b'.workdir = some place ∧ allocate (b.release w).2 = (w', .ok place) := by
  unfold clean at hc
  dsimp only at hc
  split at hc
  · cases hc
  · rename_i w₁ place ha
    obtain ⟨rfl, hw⟩ := Prod.mk.inj hc
    obtain ⟨rfl, -⟩ := Prod.mk.inj hw
    exact ⟨place, rfl, ha⟩

/-- Getting a working directory that fails gives up the one before it, and no more. -/
theorem release_of_clean_error {b' : Builder} {w' : World σ} {e : BuildError}
    (hc : b.clean w = (b', w', .error e)) : b.release w = (b', w') := by
  unfold clean at hc
  dsimp only at hc
  split at hc
  · rename_i ha
    obtain ⟨rfl, hw⟩ := Prod.mk.inj hc
    obtain ⟨rfl, -⟩ := Prod.mk.inj hw
    rw [allocate_eq_error ha]
  · cases (Prod.mk.inj (Prod.mk.inj hc).2).2

theorem wellFormed_allocate (h : w.files.WellFormed) : (allocate w).1.files.WellFormed := by
  rcases ha : allocate w with ⟨w', fault | place⟩
  · rwa [allocate_eq_error ha]
  · exact (allocated_of_allocate h ha).1

theorem wellFormed_clean (b : Builder) (h : w.files.WellFormed) :
    (b.clean w).2.1.files.WellFormed := by
  have ha := wellFormed_allocate (wellFormed_release b h)
  unfold clean
  dsimp only
  split
  · rename_i heq
    rwa [heq] at ha
  · rename_i heq
    rwa [heq] at ha

/-- After a working directory was got, the builder holds it, and it is new and empty. -/
theorem allocated_of_clean {b' : Builder} {w' : World σ} (h : w.files.WellFormed)
    (hc : b.clean w = (b', w', .ok ())) (hb : b'.workdir = some place) :
    w'.files.WellFormed ∧ Allocated (b.release w).2.files place w'.files := by
  obtain ⟨place', hplace, ha⟩ := allocate_of_clean hc
  obtain rfl : place' = place := Option.some.inj (hplace.symm.trans hb)
  exact allocated_of_allocate (wellFormed_release b h) ha

end Builder

end ImageBuild
