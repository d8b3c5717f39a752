import ImageBuild.Proofs.Archive.Overlaying
import ImageBuild.Proofs.Staging

/-!
# When staging fails

Whether staging into a new directory fails, and why, follows from what is archived of the context and
from the lengths of the names that lead to the directory (`WellFormed.stage_result`). So it fails in
the same way into directories whose names are as long (`Contained.stagingFault?_congr`).
-/

namespace ImageBuild

/-! ## Lengths of texts -/

/-- Places whose names are as long, name by name. -/
def Place.SameLengths (p q : Place) : Prop :=
  List.Forall₂ (fun name name' : Name => name.utf8ByteSize = name'.utf8ByteSize) p q

theorem utf8ByteSize_intercalate_congr (sep : String) {parts parts' : List String}
    (h : Place.SameLengths parts parts') :
    (sep.intercalate parts).utf8ByteSize = (sep.intercalate parts').utf8ByteSize := by
  induction h with
  | nil => rfl
  | cons hpart hrest ih =>
    rename_i part part' rest rest'
    by_cases hnil : rest = []
    · subst hnil
      cases hrest
      simpa using hpart
    · have hnil' : rest' ≠ [] := fun he => hnil (List.forall₂_nil_right_iff.1 (he ▸ hrest))
      rw [String.intercalate_cons_of_ne_nil hnil, String.intercalate_cons_of_ne_nil hnil',
        String.utf8ByteSize_append, String.utf8ByteSize_append, String.utf8ByteSize_append,
        String.utf8ByteSize_append, hpart, ih]

theorem Place.SameLengths.text {p q : Place} (h : p.SameLengths q) :
    p.text.utf8ByteSize = q.text.utf8ByteSize := by
  unfold Place.text
  rw [String.utf8ByteSize_append, String.utf8ByteSize_append, utf8ByteSize_intercalate_congr "/" h]

theorem Place.SameLengths.refl (p : Place) : p.SameLengths p :=
  List.forall₂_same.2 fun _ _ => rfl

theorem Place.SameLengths.append {p q p' q' : Place} (h : p.SameLengths q) (h' : p'.SameLengths q') :
    Place.SameLengths (p ++ p') (q ++ q') :=
  List.rel_append h h'

theorem Place.SameLengths.fits_iff {p q : Place} (h : p.SameLengths q) : p.Fits ↔ q.Fits := by
  have hnames : (∀ name ∈ p, name.utf8ByteSize ≤ longestName) ↔
      ∀ name ∈ q, name.utf8ByteSize ≤ longestName := by
    induction h with
    | nil => exact Iff.rfl
    | cons hname hrest ih => rw [List.forall_mem_cons, List.forall_mem_cons, hname, ih]
  unfold Place.Fits
  rw [hnames, h.text]

theorem ArchiveEntry.fault?_congr {target target' : Place} (h : target.SameLengths target')
    (entry : ArchiveEntry) : entry.fault? target = entry.fault? target' := by
  unfold fault?
  simp only [(h.append (.refl entry.path)).fits_iff]

/-! ## Copying -/

namespace FileSystem

variable {fs before : FileSystem} {dir source workdir : Place} {name : Name} {content : List UInt8}
  {mode : Mode} {time : Time} {c : Contained}

/-- Writing to a free slot or over a file fails only if a name on the way is too long. -/
theorem Resolved.write_eq (h : fs.Resolved dir) (hdir : fs.isDirAt dir = true)
    (hslot : ∀ node, fs.lookup (dir ++ [name]) = some node → node.isFile = true) :
    fs.write [] (namesToSteps (dir ++ [name])) content mode time =
      if ∃ n ∈ dir ++ [name], longestName < n.utf8ByteSize then .error .nameTooLong
      else .ok (fs.insert (dir ++ [name]) (.file content mode time)) := by
  have hsteps : namesToSteps (dir ++ [name]) = namesToSteps dir ++ [.name name] := by
    simp [namesToSteps]
  have hway := h.advance_names [.name name]
  rw [← hsteps] at hway
  obtain ⟨dirMode, hmode⟩ := isDirAt_iff.1 hdir
  unfold write
  by_cases hlong : ∃ n ∈ dir, longestName < n.utf8ByteSize
  · obtain ⟨n, hn, hsize⟩ := id hlong
    rw [if_pos hlong] at hway
    rw [walk_of_advance_failed hway, if_pos ⟨n, List.mem_append_left _ hn, hsize⟩]
  · rw [if_neg hlong] at hway
    by_cases hname : longestName < name.utf8ByteSize
    · have hlast : fs.advance none dir [.name name] = .failed .nameTooLong := by
        rw [advance, if_neg (by simp [overruns]), hmode]
        exact if_pos hname
      rw [walk_of_advance_failed (hway.trans hlast), if_pos ⟨name, by simp, hname⟩]
    · have hshort : ¬ ∃ n ∈ dir ++ [name], longestName < n.utf8ByteSize := by
        rintro ⟨n, hn, hsize⟩
        rcases List.mem_append.1 hn with hn | hn
        · exact hlong ⟨n, hn, hsize⟩
        · exact hname (List.mem_singleton.1 hn ▸ hsize)
      rw [if_neg hshort]
      cases hl : fs.lookup (dir ++ [name]) with
      | none =>
        have hlast : fs.advance none dir [.name name] = .missing (dir ++ [name]) := by
          rw [advance, if_neg (by simp [overruns]), hmode]
          simp only [if_neg hname, hl, if_true]
        unfold walk
        rw [hway, hlast]
      | some node =>
        cases node with
        | file =>
          have hstands : fs.Stands (dir ++ [name]) := ⟨_, hl, by simp⟩
          have hlast : fs.advance none dir [.name name] = .arrived (dir ++ [name]) := by
            rw [advance_name_of_stands hdir hstands, if_neg hname, advance]
          unfold walk
          rw [hway, hlast]
          dsimp only
          rw [hl]
        | _ => cases hslot _ hl

/-- Copying a file into a free slot or over another file fails only if a name on the way or the text
of the place is too long. -/
theorem WellFormed.copyFile_eq (h : fs.WellFormed) (hdir : fs.isDirAt dir = true)
    (hname : IsEntryName name)
    (hslot : ∀ node, fs.lookup (dir ++ [name]) = some node → node.isFile = true)
    (hother : source ≠ dir ++ [name])
    (hsource : fs.lookup source = some (.file content mode time)) :
    fs.copyFile source dir name =
      if Place.Fits (dir ++ [name]) then
        .ok ((fs.insert (dir ++ [name]) (.file [] mode time)).insert (dir ++ [name])
          (.file content mode time))
      else .error .nameTooLong := by
  have hne : dir ++ [name] ≠ [] := by simp
  have hresolved := h.resolved (stands_of_isDirAt hdir)
  have hfirst : fs.write [] (namesToSteps (dir ++ [name])) [] mode time = _ :=
    hresolved.write_eq hdir hslot
  unfold FileSystem.copyFile
  dsimp only
  rw [hsource]
  by_cases htext : pathLimit ≤ (Place.text (dir ++ [name])).utf8ByteSize
  · rw [if_pos htext, if_neg fun hfits => absurd hfits.2 (Nat.not_lt.2 htext)]
  · rw [if_neg htext]
    dsimp only
    rw [hfirst]
    by_cases hlong : ∃ n ∈ dir ++ [name], longestName < n.utf8ByteSize
    · obtain ⟨n, hn, hsize⟩ := id hlong
      rw [if_pos hlong, if_neg fun hfits => absurd hsize (Nat.not_lt.2 (hfits.1 n hn))]
    · have hfits : Place.Fits (dir ++ [name]) :=
        ⟨fun n hn => Nat.not_lt.1 fun hsize => hlong ⟨n, hn, hsize⟩, Nat.not_le.1 htext⟩
      rw [if_neg hlong, if_pos hfits]
      -- the file that is emptied first is the one that is written then
      have hput : Put fs (dir ++ [name]) (.file [] mode time)
          (fs.insert (dir ++ [name]) (.file [] mode time)) := by
        refine h.put_insert ?_ hdir fun hd => ?_
        · exact List.forall_mem_append.2 ⟨hresolved.named, List.forall_mem_singleton.2 hname⟩
        · obtain ⟨dirMode, hl⟩ := isDirAt_iff.1 hd
          cases hslot _ hl
      have hdir' := hput.dirs dir hdir
      dsimp only
      rw [lookup_insert_of_ne fs _ hne hother, hsource]
      dsimp only
      rw [(hput.wellFormed.resolved (stands_of_isDirAt hdir')).write_eq hdir' fun node hl => ?_,
        if_neg hlong]
      rw [hput.stands] at hl
      exact Option.some.inj hl ▸ rfl

end FileSystem

/-! ## Staging -/

/-- Why staging into a new directory fails, if it does, by what the context is archived to. -/
def Contained.stagingFault? (archived : Except ArchiveFault Archive) (workdir : Place) :
    Option StagingFault :=
  match archived with
  | .error fault => some (.notArchived fault)
  | .ok archive =>
    match (archive.filter fun entry => !entry.isExcluded).findSome? (ArchiveEntry.fault? workdir)
    with
    | some fault => some (.notUnpacked fault)
    | none =>
      if Place.Fits (workdir ++ [dockerfileName]) then none else some (.notCopied .nameTooLong)

theorem Contained.stagingFault?_congr {workdir workdir' : Place} (h : workdir.SameLengths workdir')
    (archived : Except ArchiveFault Archive) :
    stagingFault? archived workdir = stagingFault? archived workdir' := by
  have hentries : ArchiveEntry.fault? workdir = ArchiveEntry.fault? workdir' :=
    funext fun entry => entry.fault?_congr h
  unfold stagingFault?
  simp only [hentries, (h.append (.refl [dockerfileName])).fits_iff]

namespace FileSystem

variable {fs : FileSystem} {workdir : Place} {c : Contained}

/-- How staging into an empty directory ends. -/
theorem WellFormed.stage_result (h : fs.WellFormed) (hroot : fs.Resolved c.root)
    (hfile : fs.isFileAt c.file = true) (hdir : fs.isDirAt workdir = true)
    (hempty : ∀ path, path ≠ [] → fs.lookup (workdir ++ path) = none) :
    (fs.stage c workdir).2.2 =
      match Contained.stagingFault? (fs.archive [] c.root.text).2 workdir with
      | some fault => .error fault
      | none => .ok () := by
  unfold FileSystem.stage Contained.stagingFault?
  rcases ha : fs.archive [] c.root.text with ⟨records, fault | archive⟩
  · rfl
  · have harchive : Archive.WellFormed (archive.filter fun entry => !entry.isExcluded) :=
      (h.wellFormed_archive hroot ha).of_sublist List.filter_sublist
    have hparents : Archive.ParentsFirst (archive.filter fun entry => !entry.isExcluded) :=
      h.parentsFirst_filter hroot ha fun name => !(name == some dockerfileName)
    obtain ⟨-, hfault⟩ := (Overlaid.nil h).unpack hdir harchive hparents
      fun entry hmem => Or.inl (hempty _ (harchive.nonempty entry hmem))
    obtain ⟨now, rest, hsplit, hdone, -⟩ :=
      (Unpacked.nil h hempty).unpack (h.resolved (stands_of_isDirAt hdir)) harchive
    dsimp only
    rw [← hfault]
    rcases hu : fs.unpack workdir (archive.filter fun entry => !entry.isExcluded) with
      ⟨files, _ | fault⟩
    · rw [hu] at hdone
      dsimp only at hdone ⊢
      have hfree := hdone.lookup_dockerfile fun entry he => by
        obtain ⟨-, hkept⟩ := List.mem_filter.1 (hsplit ▸ List.mem_append_left rest he)
        simpa using hkept
      obtain ⟨content, mode, time, hl⟩ := isFileAt_iff.1 hfile
      have hbelow := not_below_of_isFileAt hempty hfile
      rw [← hdone.outside _ hbelow] at hl
      have hdir' : files.isDirAt workdir = true := by
        unfold isDirAt
        rw [hdone.outside workdir (by simp)]
        exact hdir
      rw [hdone.wellFormed.copyFile_eq hdir' isEntryName_dockerfileName (by simp [hfree])
        (fun he => hbelow ⟨⟨[dockerfileName], he.symm⟩, by simp [he]⟩) hl]
      split_ifs <;> rfl
    · rfl

end FileSystem

end ImageBuild
