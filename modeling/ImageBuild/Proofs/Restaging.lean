import ImageBuild.Proofs.Archive.Refilling
import ImageBuild.Proofs.Staging

/-!
# Staging into a directory that holds something

However staging ends and whatever the working directory held before, only the working directory is
changed, and it can be staged into again (`IsStageable.stage`). What could lead staging out of the
directory is a link in the place of the dockerfile, and no entry of the context is put there.
-/

namespace ImageBuild

namespace FileSystem

variable {fs fs' : FileSystem} {dir source workdir p : Place} {name : Name} {c : Contained}
  {content : List UInt8} {mode : Mode} {time : Time} {node node' : Node}

/-! ## Copying the dockerfile over another one -/

theorem Put.again (h : Put fs p node fs') {fs'' : FileSystem} (h' : Put fs' p node' fs'') :
    Put fs p node' fs'' := by
  refine ⟨h'.wellFormed, h'.stands, ?_, fun q hq => h'.dirs q (h.dirs q hq), ?_⟩
  · exact fun q hq => (h'.elsewhere q hq).trans (h.elsewhere q hq)
  · exact fun place hplace => (h'.within place hplace).trans (h.within place hplace)

/-- A file is written to its own place if no link stands there. -/
theorem WellFormed.put_of_write (h : fs.WellFormed) (hdir : fs.isDirAt dir = true)
    (hname : IsEntryName name) (hlink : ∀ link, fs.lookup (dir ++ [name]) ≠ some (.link link))
    (hw : fs.write [] (namesToSteps (dir ++ [name])) content mode time = .ok fs') :
    Put fs (dir ++ [name]) (.file content mode time) fs' := by
  have hresolved : fs.Resolved dir := h.resolved (stands_of_isDirAt hdir)
  obtain ⟨-, hnodir, rfl⟩ :=
    h.eq_insert_of_write (fun q => hresolved.lookup_ne_link_of_concat hlink) hw
  refine h.put_insert ?_ hdir fun hd => by simp [hnodir] at hd
  intro n hn
  rcases List.mem_append.1 hn with hn | hn
  · exact hresolved.named n hn
  · exact List.mem_singleton.1 hn ▸ hname

/-- Copying a file puts a file into its place. -/
theorem WellFormed.put_of_copyFile (h : fs.WellFormed) (hdir : fs.isDirAt dir = true)
    (hname : IsEntryName name) (hlink : ∀ link, fs.lookup (dir ++ [name]) ≠ some (.link link))
    (hc : fs.copyFile source dir name = .ok fs') :
    ∃ content mode time, Put fs (dir ++ [name]) (.file content mode time) fs' := by
  unfold FileSystem.copyFile at hc
  dsimp only at hc
  split_ifs at hc
  split at hc
  · split at hc
    · cases hc
    · rename_i emptied hfirst
      -- what stands there is emptied, so there is no link for the second time either
      have hput := h.put_of_write hdir hname hlink hfirst
      split at hc
      · have hlink' : ∀ link, emptied.lookup (dir ++ [name]) ≠ some (.link link) := by
          intro link
          rw [hput.stands]
          simp
        exact ⟨_, _, _, hput.again
          (hput.wellFormed.put_of_write (hput.dirs dir hdir) hname hlink' hc)⟩
      · cases hc
  · cases hc
  · cases hc

/-! ## Staging -/

/-- A directory that can be staged into: the dockerfile is not put through a link. -/
structure IsStageable (fs : FileSystem) (workdir : Place) : Prop where
  wellFormed : fs.WellFormed
  isDir : fs.isDirAt workdir = true
  dockerfile : ∀ link, fs.lookup (workdir ++ [dockerfileName]) ≠ some (.link link)

/-- Entries that are not called like the dockerfile leave its place alone. -/
theorem Refilled.isStageable {before : FileSystem} {done : Archive}
    (h : Refilled before workdir done fs) (hb : before.IsStageable workdir)
    (hdone : ∀ entry ∈ done, entry.path ≠ [] ∧ entry.isExcluded = false) :
    fs.IsStageable workdir := by
  refine ⟨h.wellFormed, h.dirs workdir hb.isDir, fun link => ?_⟩
  rw [h.others]
  · exact hb.dockerfile link
  · intro entry he hpre
    obtain ⟨hne, hexcluded⟩ := hdone entry he
    obtain ⟨first, rest, hpath⟩ := List.exists_cons_of_ne_nil hne
    rw [hpath, List.cons_prefix_cons] at hpre
    simp [ArchiveEntry.isExcluded, hpath, hpre.1] at hexcluded

theorem IsStageable.stage (h : fs.IsStageable workdir) (hroot : fs.Resolved c.root) :
    (fs.stage c workdir).2.1.IsStageable workdir ∧
      (fs.stage c workdir).2.1.erase workdir = fs.erase workdir := by
  unfold FileSystem.stage
  split
  · exact ⟨h, rfl⟩
  · rename_i records archive ha
    have harchive : archive.WellFormed := h.wellFormed.wellFormed_archive hroot ha
    have hparents : Archive.ParentsFirst (archive.filter fun entry => !entry.isExcluded) :=
      h.wellFormed.parentsFirst_filter hroot ha fun name => !(name == some dockerfileName)
    have hnothing : Refilled fs workdir [] fs := .nil h.wellFormed
    obtain ⟨now, rest, hsplit, hrefilled⟩ :=
      hnothing.unpack h.isDir (harchive.of_sublist List.filter_sublist) hparents
    have hunpacked := hrefilled.isStageable h fun entry he => by
      rw [List.nil_append] at he
      obtain ⟨hmem, hkept⟩ := List.mem_filter.1 (hsplit ▸ List.mem_append_left rest he)
      exact ⟨harchive.nonempty entry hmem, by simpa using hkept⟩
    split
    · rename_i hu
      rw [hu] at hunpacked hrefilled
      exact ⟨hunpacked, hrefilled.outside⟩
    · rename_i hu
      rw [hu] at hunpacked hrefilled
      split
      · exact ⟨hunpacked, hrefilled.outside⟩
      · rename_i hcopy
        obtain ⟨content, mode, time, hput⟩ := hunpacked.wellFormed.put_of_copyFile hunpacked.isDir
          isEntryName_dockerfileName hunpacked.dockerfile hcopy
        refine ⟨⟨hput.wellFormed, hput.dirs workdir hunpacked.isDir, fun link => ?_⟩, ?_⟩
        · rw [hput.stands]
          simp
        · rw [hput.within workdir (List.prefix_append _ _)]
          exact hrefilled.outside

end FileSystem

end ImageBuild
