import ImageBuild.Proofs.FileSystem.Resolved
import ImageBuild.Sandbox

/-!
# Containment of accepted dockerfiles

An accepted dockerfile is a regular file below the root. Both places are resolved, so no link is on
the way to either of them, and the root stands before the file name by name (`isInside_of_check`).
-/

namespace ImageBuild

/-- A regular file at or below the directory that a root text leads to, both by their resolved
places. -/
structure Contained.IsInside (fs : FileSystem) (cwd : Place) (root : String) (c : Contained) :
    Prop where
  /-- The root is what its text resolves to. -/
  canonical_root : fs.canonical cwd root = .ok c.root
  root_resolved : fs.Resolved c.root
  file_resolved : fs.Resolved c.file
  root_prefix : c.root <+: c.file
  isFile : fs.isFileAt c.file = true

namespace Sandbox

variable {fs : FileSystem} {cwd root place : Place} {file text : String} {c : Contained}

theorem inspect_eq_ok_iff : inspect fs file root place = .ok c ↔
    c.root = root ∧ fs.canonical [] place.text = .ok c.file ∧ root <+: c.file ∧
      fs.isFileAt c.file = true := by
  unfold inspect
  rcases hc : fs.canonical [] place.text with fault | resolved
  · cases fault <;> simp
  · simp only [Except.ok.injEq]
    by_cases hpre : root <+: resolved
    · by_cases hfile : fs.isFileAt resolved = true
      · rw [if_neg (by simpa using hpre), if_neg (by simpa using hfile), Except.ok.injEq]
        constructor
        · rintro rfl
          exact ⟨rfl, rfl, hpre, hfile⟩
        · rintro ⟨hroot, hresolved, -, -⟩
          rw [← hroot, hresolved]
      · rw [if_neg (by simpa using hpre), if_pos (by simpa using hfile)]
        refine iff_of_false (by simp) ?_
        rintro ⟨-, rfl, -, hf⟩
        exact hfile hf
    · rw [if_pos (by simpa [← List.isPrefixOf_iff_prefix] using hpre)]
      refine iff_of_false (by simp) ?_
      rintro ⟨-, rfl, hp, -⟩
      exact hpre hp

theorem check_eq_ok_iff : check fs cwd file text = .ok c ↔
    fs.canonical cwd text = .ok c.root ∧
      ∃ place, candidate? c.root file = some place ∧ inspect fs file c.root place = .ok c := by
  unfold check
  rcases hroot : fs.canonical cwd text with fault | resolved
  · simp
  · simp only [Except.ok.injEq]
    constructor
    · intro h
      split at h
      · cases h
      · rename_i place hplace
        obtain rfl := (inspect_eq_ok_iff.1 h).1
        exact ⟨rfl, place, hplace, h⟩
    · rintro ⟨rfl, place, hplace, h⟩
      rw [hplace]
      exact h

/-- An accepted dockerfile is a regular file below the root. -/
theorem isInside_of_check (hfs : fs.WellFormed) (h : check fs cwd file text = .ok c) :
    c.IsInside fs cwd text := by
  obtain ⟨hroot, place, -, hinspect⟩ := check_eq_ok_iff.1 h
  obtain ⟨-, hfile, hpre, hisFile⟩ := inspect_eq_ok_iff.1 hinspect
  exact ⟨hroot, hfs.resolved_of_canonical hroot, hfs.resolved_of_canonical hfile, hpre, hisFile⟩

end Sandbox

end ImageBuild
