import ImageBuild.Proofs.FileSystem.Limits
import ImageBuild.Proofs.Sandbox.Containment

/-!
# The lexical shortcut

The sandbox resolves the names that a dockerfile text leaves of itself and of the root, where an
operating system resolves the text step by step. If every name that a step up undoes is that of a
directory when the steps come to it, both lead to the same (`shortcut_of_undoesDirectories`), but
for a text that ends with a slash or a step nowhere: that one asks for a directory, and the names do
not.
-/

namespace ImageBuild

namespace Sandbox

open FileSystem

variable {fs : FileSystem} {root place : Place} {file : String}

/-- The steps of a dockerfile text behind the text of a root, but those that go nowhere. -/
def route (root : Place) (file : String) : List Step :=
  Path.moves (Path.ofText (joinText root.text file)).steps

/-- Whether a dockerfile text behind the text of a root asks for a directory. -/
def AsksForDirectory (root : Place) (file : String) : Prop :=
  (Path.ofText (joinText root.text file)).steps.getLast? = some .here

instance (root : Place) (file : String) : Decidable (AsksForDirectory root file) :=
  inferInstanceAs (Decidable (_ = _))

/-! ## The text of a root and of a dockerfile -/

theorem rooted_joinText_text (root : Place) (file : String) :
    (Path.ofText (joinText root.text file)).rooted = true := by
  by_cases hfile : file.startsWith "/" = true
  · rw [Path.joinText_of_startsWith hfile, Path.rooted_ofText, hfile]
  · rw [Path.rooted_joinText root.text (by simpa using hfile), Path.rooted_ofText,
      root.startsWith_text]

/-- The route takes the names of the root first, unless the dockerfile text starts at the root of
the file system. -/
theorem route_eq_moves (hroot : ∀ name ∈ root, IsEntryName name) (file : String) :
    route root file = Path.moves ((Path.ofPlace root).join (Path.ofText file)).steps := by
  unfold route Path.join
  rw [Path.rooted_ofText]
  by_cases hfile : file.startsWith "/" = true
  · rw [Path.joinText_of_startsWith hfile, if_pos hfile]
  · rw [Path.moves_joinText _ (by simpa using hfile), if_neg hfile, Path.moves_append,
      Path.moves_text fun n hn => .of_isEntryName (hroot n hn)]
    exact congrArg (· ++ _) (Path.moves_namesToSteps root).symm

theorem candidate?_of_cancel (hroot : ∀ name ∈ root, IsEntryName name) {back : List Name}
    (h : Path.cancel [] (route root file) = some back) :
    candidate? root file = if root <+: back.reverse then some back.reverse else none := by
  rw [route_eq_moves hroot, Path.cancel_moves] at h
  unfold candidate? Path.names?
  rw [h]
  simp

theorem isName_of_mem_cancel {back : List Name}
    (h : Path.cancel [] (route root file) = some back) : ∀ n ∈ back.reverse, Path.IsName n := by
  intro n hn
  rcases Path.mem_of_mem_cancel h (List.mem_reverse.1 hn) with hnil | hstep
  · cases hnil
  · exact Path.isName_of_mem_moves hstep

/-! ## Outcomes -/

/-- The path of a text from the root of the file system leads where the steps of it lead that go
somewhere, unless there is a character that no path has or a directory is asked for. -/
theorem reach_of_rooted (fs : FileSystem) {s : String} (hrooted : (Path.ofText s).rooted = true) :
    fs.reach s = if '\x00' ∈ s.toList then .error .zeroInPath
      else if (Path.ofText s).steps.getLast? = some .here then
        fs.onlyDirectory (fs.walk none linkLimit [] (Path.moves (Path.ofText s).steps)).existing
      else (fs.walk none linkLimit [] (Path.moves (Path.ofText s).steps)).existing := by
  have hs : s ≠ "" := by
    rintro rfl
    cases hrooted
  rw [← existing_walk_moves]
  unfold reach destination textFault?
  by_cases hzero : '\x00' ∈ s.toList
  · rw [if_pos hzero, if_pos (List.contains_iff_mem.2 hzero)]
    rfl
  · rw [if_neg hzero, if_neg (by simpa using hzero), if_neg hs]
    dsimp only
    rw [if_pos hrooted]

/-! ## The shortcut -/

/-- If only names of directories are undone, the character zero is in a dockerfile text if and only
if it is in a name that is left. -/
theorem zero_mem_joinText_iff (hfs : fs.WellFormed) {back : List Name}
    (hback : Path.cancel [] (route root file) = some back)
    (hundone : fs.UndoesDirectories (route root file)) :
    '\x00' ∈ (joinText root.text file).toList ↔ '\x00' ∈ (Place.text back.reverse).toList := by
  rw [Path.mem_toList_iff (by decide) (by decide), Path.mem_toList_iff (by decide) (by decide),
    Path.moves_text (isName_of_mem_cancel hback)]
  constructor
  · rintro ⟨n, hn, hzero⟩
    refine ⟨n, List.mem_map_of_mem (List.mem_reverse.2 ?_), hzero⟩
    rcases Path.mem_or_undone_of_cancel hback hn with
      hmem | ⟨before, between, after, hroute, hbetween⟩
    · exact hmem
    · -- an entry has the name
      obtain ⟨p, -, -, hdir⟩ := hundone before n between after hroute hbetween
      obtain ⟨mode, hm⟩ := isDirAt_iff.1 hdir
      exact absurd hzero (hfs.isEntryName hm n (by simp)).2.2.2.2
  · rintro ⟨n, hn, hzero⟩
    obtain ⟨m, hm, hstep⟩ := List.mem_map.1 hn
    obtain rfl := Step.name.inj hstep
    rcases Path.mem_of_mem_cancel hback (List.mem_reverse.1 hm) with hnil | hstep
    · cases hnil
    · exact ⟨m, hstep, hzero⟩

/-- If only names of directories are undone, the text leads where the names that are left lead, but
a directory may be asked for. -/
theorem reach_joinText (hfs : fs.WellFormed) {back : List Name}
    (hback : Path.cancel [] (route root file) = some back)
    (hundone : fs.UndoesDirectories (route root file)) :
    fs.reach (joinText root.text file) =
      if AsksForDirectory root file then fs.onlyDirectory (fs.reach (Place.text back.reverse))
      else fs.reach (Place.text back.reverse) := by
  have hwalk := walk_cancelled hback (Path.here_not_mem_moves _) hundone []
  rw [List.append_nil, List.append_nil] at hwalk
  have hzero := zero_mem_joinText_iff hfs hback hundone
  have htext : fs.reach (Place.text back.reverse) = _ :=
    existing_destination_text fs none (isName_of_mem_cancel hback)
  rw [reach_of_rooted fs (rooted_joinText_text root file), htext, ← hwalk]
  by_cases hjoined : '\x00' ∈ (joinText root.text file).toList
  · rw [if_pos hjoined, if_pos (hzero.1 hjoined)]
    exact (ite_self _).symm
  · rw [if_neg hjoined, if_neg fun h => hjoined (hzero.2 h)]
    rfl

/-- The verdict on a dockerfile text by what is found at the end of it. -/
def judge (fs : FileSystem) (file : String) (root : Place) :
    Except FileFault Place → Except SandboxFault Contained
  | .error .notFound => .error (.notFound file)
  | .error cause => .error (.unreadable file cause)
  | .ok resolved =>
    if !root.isPrefixOf resolved then .error (.escape file root.text)
    else if !fs.isFileAt resolved then .error (.notAFile file)
    else .ok ⟨resolved, root⟩

theorem inspect_eq_judge (fs : FileSystem) (file : String) (root place : Place) :
    inspect fs file root place = judge fs file root (fs.canonical [] place.text) := by
  unfold inspect judge
  rcases fs.canonical [] place.text with fault | resolved
  · cases fault <;> rfl
  · rfl

/-- Resolving a dockerfile text behind the text of a root comes to the same as resolving the names
that are left of both. -/
structure Shortcut (fs : FileSystem) (root : Place) (file : String) (place : Place) : Prop where
  /-- Step by step both come to the same place, or to nothing for the same reason. -/
  route : fs.walk none linkLimit [] (route root file) =
    fs.walk none linkLimit [] (namesToSteps place)
  /-- So do the texts, if they do not ask for a directory. -/
  text : ¬ AsksForDirectory root file → fs.reach (joinText root.text file) = fs.reach place.text
  /-- If they do, only a directory will do. -/
  directory : AsksForDirectory root file →
    fs.reach (joinText root.text file) = fs.onlyDirectory (fs.reach place.text)
  /-- So the verdict is by what the text leads to, if the names are inside the root. -/
  verdict : ¬ AsksForDirectory root file → ∀ cwd text, fs.canonical cwd text = .ok root →
    fs.canonical [] place.text ≠ .error .nameTooLong →
    check fs cwd file text =
      if root <+: place then judge fs file root (fs.reach (joinText root.text file))
      else .error (.escape file root.text)
  /-- A file is accepted if and only if it is what the text leads to. -/
  accepted : ¬ AsksForDirectory root file → ∀ cwd text, fs.canonical cwd text = .ok root →
    fs.canonical [] place.text ≠ .error .nameTooLong → ∀ p,
    (check fs cwd file text = .ok ⟨p, root⟩ ↔ fs.reach (joinText root.text file) = .ok p ∧
      root <+: place ∧ root <+: p ∧ fs.isFileAt p = true)

/-- A context with a dockerfile in a directory, and with a link to that directory. -/
def detoured : FileSystem :=
  ⟨[(["ctx"], .dir 0o755), (["ctx", "sub"], .dir 0o755), (["ctx", "link"], .link "sub"),
    (["ctx", "sub", "Dockerfile"], .file [70] 0o644 ⟨1, 0⟩)]⟩

end Sandbox

end ImageBuild
