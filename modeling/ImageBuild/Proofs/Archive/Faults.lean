import ImageBuild.Proofs.Archive.Refilling

/-!
# When an entry can not be unpacked

Into a free slot of a directory an entry is put unless a name on the way to it or the text of its
place is too long, or it is a link without a target (`ArchiveEntry.fault?`). So all that counts of
the directory is how long the texts of the places in it are (`WellFormed.unpackEntry_eq`).
-/

namespace ImageBuild

/-- The names on the way to a place and its text are not too long. -/
def Place.Fits (place : Place) : Prop :=
  (∀ name ∈ place, name.utf8ByteSize ≤ longestName) ∧ place.text.utf8ByteSize < pathLimit

instance (place : Place) : Decidable place.Fits :=
  inferInstanceAs (Decidable (_ ∧ _))

/-- Why an entry can not be put into an empty directory. -/
def ArchiveEntry.fault? (target : Place) (entry : ArchiveEntry) : Option FileFault :=
  if ¬ Place.Fits (target ++ entry.path) then some .nameTooLong
  else if entry.stored = .link "" then some .notFound
  else none

theorem Stored.unpacked_eq_link_iff {stored : Stored} {target : String} :
    stored.unpacked = .link target ↔ stored = .link target := by
  cases stored <;> simp [Stored.unpacked]

namespace FileSystem

variable {fs : FileSystem} {dir target p : Place} {name : Name} {node : Node} {entry : ArchiveEntry}

/-! ## Names without links -/

theorem Resolved.follow_names (h : fs.Resolved p) :
    fs.follow [] (namesToSteps p) =
      if ∃ name ∈ p, longestName < name.utf8ByteSize then .error .nameTooLong else .ok p := by
  have ha := h.advance_names []
  rw [List.append_nil] at ha
  unfold follow walk
  rw [ha]
  by_cases hlong : ∃ name ∈ p, longestName < name.utf8ByteSize
  · rw [if_pos hlong, if_pos hlong]
    rfl
  · rw [if_neg hlong, if_neg hlong, advance]
    rfl

theorem WellFormed.unpackParent_eq (h : fs.WellFormed) {path : List Name}
    (hdir : fs.isDirAt (target ++ path.dropLast) = true) :
    fs.unpackParent target path =
      if ∃ name ∈ target ++ path.dropLast, longestName < name.utf8ByteSize then
        .error .nameTooLong
      else .ok (target ++ path.dropLast) := by
  have hparent : fs.Resolved (target ++ path.dropLast) := h.resolved (stands_of_isDirAt hdir)
  obtain ⟨mode, hl⟩ := isDirAt_iff.1 hdir
  have htarget : fs.Resolved target := by
    by_cases hpath : target = target ++ path.dropLast
    · rwa [← hpath] at hparent
    · exact h.resolved (stands_of_isDirAt
        (h.isDirAt_of_prefix hl (List.prefix_append _ _) hpath))
  unfold unpackParent
  rw [hparent.follow_names, htarget.follow_names]
  by_cases hlong : ∃ name ∈ target ++ path.dropLast, longestName < name.utf8ByteSize
  · rw [if_pos hlong]
  · have hshort : ¬ ∃ name ∈ target, longestName < name.utf8ByteSize :=
      fun ⟨name, hmem, hname⟩ => hlong ⟨name, List.mem_append_left _ hmem, hname⟩
    rw [if_neg hlong, if_neg hshort]
    simp

/-! ## Free slots -/

theorem create_name_of_free (hdir : fs.isDirAt dir = true)
    (hfree : fs.lookup (dir ++ [name]) = none) (node : Node) :
    fs.create dir [.name name] node =
      if longestName < name.utf8ByteSize then .error .nameTooLong
      else if node = .link "" then .error .notFound
      else .ok (fs.insert (dir ++ [name]) node) := by
  unfold create
  rw [slot_name, if_neg (by simp [hdir])]
  by_cases hlong : longestName < name.utf8ByteSize
  · rw [if_pos hlong, if_pos hlong]
  · rw [if_neg hlong, if_neg hlong]
    simp only [hfree]

theorem overwrite_eq_create (hfree : fs.lookup (dir ++ [name]) = none) (node : Node) :
    fs.overwrite dir name node = fs.create dir [.name name] node := by
  unfold overwrite
  rcases create_name_cases hfree node with ⟨fault, hne, hc⟩ | ⟨-, hc⟩
  · rw [hc]
    cases fault <;> first | rfl | exact absurd rfl hne
  · rw [hc]

theorem ensureDir_eq_create (hfree : fs.lookup (dir ++ [name]) = none) (mode : Mode) :
    fs.ensureDir dir name mode = fs.create dir [.name name] (.dir mode) := by
  unfold ensureDir
  rcases create_name_cases hfree (.dir mode) with ⟨fault, hne, hc⟩ | ⟨-, hc⟩
  · rw [hc]
    cases fault <;> first | rfl | exact absurd rfl hne
  · rw [hc]

/-! ## Entries -/

/-- What an entry is put through with is a new node in its slot, if that is free. -/
theorem put_eq_create (hfree : fs.lookup (dir ++ [name]) = none) (stored : Stored) :
    (match stored with
      | .dir mode => fs.ensureDir dir name (unpackedMode mode)
      | .link link => fs.overwrite dir name (.link link)
      | .file content mode seconds =>
        fs.overwrite dir name (.file content (unpackedMode mode) (unpackedTime seconds))) =
      fs.create dir [.name name] stored.unpacked := by
  cases stored with
  | dir mode => exact ensureDir_eq_create hfree _
  | _ => exact overwrite_eq_create hfree _

theorem fits_append_iff (hne : entry.path ≠ []) : Place.Fits (target ++ entry.path) ↔
    (Place.text (target ++ entry.path)).utf8ByteSize < pathLimit ∧
      (¬ ∃ name ∈ target ++ entry.path.dropLast, longestName < name.utf8ByteSize) ∧
      (entry.path.getLast hne).utf8ByteSize ≤ longestName := by
  have hnames : (∀ name ∈ target ++ entry.path, name.utf8ByteSize ≤ longestName) ↔
      (∀ name ∈ target ++ entry.path.dropLast, name.utf8ByteSize ≤ longestName) ∧
        (entry.path.getLast hne).utf8ByteSize ≤ longestName := by
    rw [← append_dropLast_getLast target hne, List.forall_mem_append, List.forall_mem_singleton]
  unfold Place.Fits
  rw [hnames]
  simp only [not_exists, not_and, Nat.not_lt]
  tauto

/-- An entry is put where its path says as its slot takes it, unless it is at fault. -/
theorem WellFormed.unpackEntry_eq_of_put (h : fs.WellFormed) (hne : entry.path ≠ [])
    (hdir : fs.isDirAt (target ++ entry.path.dropLast) = true) {fs' : FileSystem}
    (hput : (match entry.stored with
      | .dir mode => fs.ensureDir (target ++ entry.path.dropLast) (entry.path.getLast hne)
        (unpackedMode mode)
      | .link link => fs.overwrite (target ++ entry.path.dropLast) (entry.path.getLast hne)
        (.link link)
      | .file content mode seconds => fs.overwrite (target ++ entry.path.dropLast)
        (entry.path.getLast hne) (.file content (unpackedMode mode) (unpackedTime seconds))) =
      if longestName < (entry.path.getLast hne).utf8ByteSize then .error .nameTooLong
      else if entry.stored = .link "" then .error .notFound
      else .ok fs') :
    fs.unpackEntry target entry =
      match entry.fault? target with
      | some fault => .error fault
      | none => .ok fs' := by
  have hfits : Place.Fits (target ++ entry.path) ↔ _ := fits_append_iff hne
  unfold unpackEntry ArchiveEntry.fault?
  rw [List.getLast?_eq_some_getLast hne]
  dsimp only
  rw [h.unpackParent_eq hdir]
  by_cases htext : pathLimit ≤ (Place.text (target ++ entry.path)).utf8ByteSize
  · rw [if_pos htext, if_pos fun hf => absurd (hfits.1 hf).1 (Nat.not_lt.2 htext)]
  · rw [if_neg htext]
    by_cases hway : ∃ name ∈ target ++ entry.path.dropLast, longestName < name.utf8ByteSize
    · rw [if_pos hway, if_pos fun hf => (hfits.1 hf).2.1 hway]
    · rw [if_neg hway]
      refine hput.trans ?_
      by_cases hlast : longestName < (entry.path.getLast hne).utf8ByteSize
      · rw [if_pos hlast, if_pos fun hf => absurd hlast (Nat.not_lt.2 (hfits.1 hf).2.2)]
      · rw [if_neg hlast,
          if_neg (not_not.2 (hfits.2 ⟨Nat.not_le.1 htext, hway, Nat.not_lt.1 hlast⟩))]
        by_cases hlink : entry.stored = .link ""
        · rw [if_pos hlink, if_pos hlink]
        · rw [if_neg hlink, if_neg hlink]

/-- An entry whose slot is free is put there, unless it is at fault. -/
theorem WellFormed.unpackEntry_eq (h : fs.WellFormed) (hne : entry.path ≠ [])
    (hdir : fs.isDirAt (target ++ entry.path.dropLast) = true)
    (hfree : fs.lookup (target ++ entry.path) = none) :
    fs.unpackEntry target entry =
      match entry.fault? target with
      | some fault => .error fault
      | none => .ok (fs.insert (target ++ entry.path) entry.stored.unpacked) := by
  rw [← append_dropLast_getLast target hne] at hfree ⊢
  refine h.unpackEntry_eq_of_put hne hdir ((put_eq_create hfree entry.stored).trans ?_)
  rw [create_name_of_free hdir hfree]
  simp only [Stored.unpacked_eq_link_iff]

end FileSystem

end ImageBuild
