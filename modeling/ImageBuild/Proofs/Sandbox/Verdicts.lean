import ImageBuild.Proofs.FileSystem.Stages
import ImageBuild.Proofs.Sandbox.Respelling

/-!
# When each verdict is due

The verdict on a dockerfile text depends on four things: where the root text resolves to, what the
dockerfile text names behind it, where that resolves to, and what stands there. `IsDue` says so for
each verdict without the order in which the sandbox looks at them. Exactly one verdict is due, and
it is the one that is given (`classified`). Whether a text leaves the root (`Leaves`) does not depend
on the file system.
-/

namespace ImageBuild

namespace Sandbox

open FileSystem

variable {fs : FileSystem} {cwd root place resolved : Place} {file text : String}
  {cause : FileFault} {v : Except SandboxFault Contained}

/-- What a dockerfile text behind the text of a root leaves of both is a place that is not inside of
the root, or no place at all. -/
def Leaves (root : Place) (file : String) : Prop :=
  ∀ place, (Path.ofText (joinText root.text file)).names? = some place → ¬ root <+: place

/-- What a dockerfile text behind the text of a root leaves of both is a place inside of the root. -/
structure NamesInside (root : Place) (file : String) (place : Place) : Prop where
  names : (Path.ofText (joinText root.text file)).names? = some place
  inside : root <+: place

/-- When a verdict is due. -/
def IsDue (fs : FileSystem) (cwd : Place) (file text : String) :
    Except SandboxFault Contained → Prop
  | .error (.rootUnavailable r cause) => r = text ∧ fs.FailsBy cwd text cause
  | .error (.escape f r) => f = file ∧ ∃ root, fs.ResolvesTo cwd text root ∧ r = root.text ∧
      (Leaves root file ∨ ∃ place resolved : Place,
        (Path.ofText (joinText root.text file)).names? = some place ∧
          fs.ResolvesTo [] place.text resolved ∧ ¬ root <+: resolved)
  | .error (.notFound f) => f = file ∧ ∃ root place, fs.ResolvesTo cwd text root ∧
      NamesInside root file place ∧ fs.FailsBy [] place.text .notFound
  | .error (.notAFile f) => f = file ∧ ∃ root place resolved, fs.ResolvesTo cwd text root ∧
      NamesInside root file place ∧ fs.ResolvesTo [] place.text resolved ∧ root <+: resolved ∧
      fs.isFileAt resolved = false
  | .error (.unreadable f cause) => f = file ∧ ∃ root place, fs.ResolvesTo cwd text root ∧
      NamesInside root file place ∧
      (cause ≠ .notFound ∧ fs.FailsBy [] place.text cause ∨
        ∃ resolved, fs.ResolvesTo [] place.text resolved ∧ root <+: resolved ∧
          fs.isFileAt resolved = true ∧ fs.readBytes [] resolved.text = .error cause)
  | .ok c => fs.ResolvesTo cwd text c.root ∧ ∃ place, NamesInside c.root file place ∧
      fs.ResolvesTo [] place.text c.file ∧ c.root <+: c.file ∧ fs.isFileAt c.file = true ∧
      ∃ bytes, fs.readBytes [] c.file.text = .ok bytes

/-! ## What a text names behind a root -/

theorem leaves_or_namesInside (root : Place) (file : String) :
    Leaves root file ∨ ∃ place, NamesInside root file place := by
  by_cases h : ∃ place, NamesInside root file place
  · exact Or.inr h
  · exact Or.inl fun place hnames hinside => h ⟨place, hnames, hinside⟩

/-- A text is put behind a root as a path as it is as a text. -/
theorem names?_join (hroot : ∀ name ∈ root, IsEntryName name) (file : String) :
    ((Path.ofPlace root).join (Path.ofText file)).names? =
      (Path.ofText (joinText root.text file)).names? := by
  unfold Path.names?
  rw [← Path.cancel_moves, ← route_eq_moves hroot, route, Path.cancel_moves]

theorem Leaves.candidate? (h : Leaves root file) (hroot : ∀ name ∈ root, IsEntryName name) :
    candidate? root file = none := by
  unfold Sandbox.candidate?
  rw [names?_join hroot]
  cases hnames : (Path.ofText (joinText root.text file)).names? with
  | none => rfl
  | some place => exact if_neg (by simpa using h place hnames)

theorem NamesInside.candidate? (h : NamesInside root file place)
    (hroot : ∀ name ∈ root, IsEntryName name) : candidate? root file = some place := by
  unfold Sandbox.candidate?
  rw [names?_join hroot, h.names]
  exact if_pos (by simpa using h.inside)

/-! ## The verdict that is given -/

theorem check_of_failsBy (h : fs.FailsBy cwd text cause) :
    check fs cwd file text = .error (.rootUnavailable text cause) := by
  unfold check
  rw [canonical_eq_error_iff.2 h]

/-- A text that leaves the root is refused, whatever there is in the file system. -/
theorem check_of_leaves (hfs : fs.WellFormed) (hroot : fs.ResolvesTo cwd text root)
    (h : Leaves root file) : check fs cwd file text = .error (.escape file root.text) := by
  have hcanonical := canonical_eq_ok_iff.2 hroot
  unfold check
  rw [hcanonical]
  dsimp only
  rw [h.candidate? (hfs.resolved_of_canonical hcanonical).named]

theorem check_of_namesInside (hfs : fs.WellFormed) (hroot : fs.ResolvesTo cwd text root)
    (h : NamesInside root file place) :
    check fs cwd file text = judge fs file root (fs.canonical [] place.text) := by
  have hcanonical := canonical_eq_ok_iff.2 hroot
  exact check_of_candidate? hcanonical
    (h.candidate? (hfs.resolved_of_canonical hcanonical).named)

theorem judge_of_ne_notFound (h : cause ≠ .notFound) :
    judge fs file root (.error cause) = .error (.unreadable file cause) := by
  cases cause with
  | notFound => exact absurd rfl h
  | _ => rfl

theorem judge_of_not_prefix (h : ¬ root <+: resolved) :
    judge fs file root (.ok resolved) = .error (.escape file root.text) :=
  if_pos (by simpa [← List.isPrefixOf_iff_prefix] using h)

theorem judge_of_not_isFileAt (hin : root <+: resolved) (h : fs.isFileAt resolved = false) :
    judge fs file root (.ok resolved) = .error (.notAFile file) := by
  unfold judge
  dsimp only
  rw [if_neg (by simpa using hin), if_pos (by simp [h])]

theorem judge_of_isFileAt (hin : root <+: resolved) (h : fs.isFileAt resolved = true) :
    judge fs file root (.ok resolved) = .ok ⟨resolved, root⟩ := by
  unfold judge
  dsimp only
  rw [if_neg (by simpa using hin), if_neg (by simp [h])]

/-! ## The verdict that is due -/

/-- A verdict that is due is given. -/
theorem IsDue.check_eq (hfs : fs.WellFormed) (h : IsDue fs cwd file text v) :
    check fs cwd file text = v := by
  rcases v with fault | c
  · cases fault with
    | rootUnavailable r cause =>
      obtain ⟨rfl, hfails⟩ := h
      exact check_of_failsBy hfails
    | escape f r =>
      obtain ⟨rfl, root, hroot, rfl, h⟩ := h
      rcases leaves_or_namesInside root f with hleaves | ⟨place, hin⟩
      · exact check_of_leaves hfs hroot hleaves
      · rcases h with hleaves | ⟨place', resolved, hnames, hresolved, hout⟩
        · exact absurd hin.inside (hleaves place hin.names)
        · obtain rfl : place = place' := Option.some.inj (hin.names.symm.trans hnames)
          rw [check_of_namesInside hfs hroot hin, canonical_eq_ok_iff.2 hresolved,
            judge_of_not_prefix hout]
    | notFound f =>
      obtain ⟨rfl, root, place, hroot, hin, hfails⟩ := h
      rw [check_of_namesInside hfs hroot hin, canonical_eq_error_iff.2 hfails]
      rfl
    | notAFile f =>
      obtain ⟨rfl, root, place, resolved, hroot, hin, hresolved, hpre, hfile⟩ := h
      rw [check_of_namesInside hfs hroot hin, canonical_eq_ok_iff.2 hresolved,
        judge_of_not_isFileAt hpre hfile]
    | unreadable f cause =>
      obtain ⟨rfl, root, place, hroot, hin, h⟩ := h
      rcases h with ⟨hne, hfails⟩ | ⟨resolved, hresolved, -, hfile, hread⟩
      · rw [check_of_namesInside hfs hroot hin, canonical_eq_error_iff.2 hfails,
          judge_of_ne_notFound hne]
      · -- a regular file that was resolved can be read
        obtain ⟨bytes, hbytes⟩ :=
          hfs.readBytes_of_canonical (canonical_eq_ok_iff.2 hresolved) hfile
        rw [hbytes] at hread
        cases hread
  · obtain ⟨hroot, place, hin, hresolved, hpre, hfile, -⟩ := h
    rw [check_of_namesInside hfs hroot hin, canonical_eq_ok_iff.2 hresolved,
      judge_of_isFileAt hpre hfile]

/-- Some verdict is due. -/
theorem exists_isDue (hfs : fs.WellFormed) (cwd : Place) (file text : String) :
    ∃ v, IsDue fs cwd file text v := by
  rcases hcanonical : fs.canonical cwd text with cause | root
  · exact ⟨.error (.rootUnavailable text cause), rfl, canonical_eq_error_iff.1 hcanonical⟩
  have hroot := canonical_eq_ok_iff.1 hcanonical
  rcases leaves_or_namesInside root file with hleaves | ⟨place, hin⟩
  · exact ⟨.error (.escape file root.text), rfl, root, hroot, rfl, Or.inl hleaves⟩
  rcases hplace : fs.canonical [] place.text with cause | resolved
  · have hfails := canonical_eq_error_iff.1 hplace
    by_cases hcause : cause = .notFound
    · subst hcause
      exact ⟨.error (.notFound file), rfl, root, place, hroot, hin, hfails⟩
    · exact ⟨.error (.unreadable file cause), rfl, root, place, hroot, hin,
        Or.inl ⟨hcause, hfails⟩⟩
  have hresolved := canonical_eq_ok_iff.1 hplace
  by_cases hpre : root <+: resolved
  · rcases hfile : fs.isFileAt resolved
    · exact ⟨.error (.notAFile file), rfl, root, place, resolved, hroot, hin, hresolved, hpre,
        hfile⟩
    · exact ⟨.ok ⟨resolved, root⟩, hroot, place, hin, hresolved, hpre, hfile,
        hfs.readBytes_of_canonical hplace hfile⟩
  · exact ⟨.error (.escape file root.text), rfl, root, hroot, rfl,
      Or.inr ⟨place, resolved, hin.names, hresolved, hpre⟩⟩

/-- What is accepted stays so when nodes are added. -/
theorem check_of_extends {fs' : FileSystem} {c : Contained} (h : fs.Extends fs')
    (hcheck : check fs cwd file text = .ok c) : check fs' cwd file text = .ok c := by
  obtain ⟨hroot, place, hplace, hinspect⟩ := check_eq_ok_iff.1 hcheck
  obtain ⟨hsame, hresolved, hpre, hfile⟩ := inspect_eq_ok_iff.1 hinspect
  rw [canonical_eq_ok_iff] at hroot hresolved
  exact check_eq_ok_iff.2 ⟨canonical_eq_ok_iff.2 (hroot.of_extends h), place, hplace,
    inspect_eq_ok_iff.2 ⟨hsame, canonical_eq_ok_iff.2 (hresolved.of_extends h), hpre,
      h.isFileAt hfile⟩⟩

/-- The verdicts on a dockerfile text and a root text are told apart by what the file system holds. -/
structure Classified (fs : FileSystem) (cwd : Place) (file text : String) : Prop where
  /-- The verdict that is given is the one that is due. -/
  given_iff : ∀ v, check fs cwd file text = v ↔ IsDue fs cwd file text v
  /-- No two verdicts are due, and none is missing. -/
  one : ∃! v, IsDue fs cwd file text v
  /-- A text that leaves a root is refused as such in every file system in which some root text
  resolves to that root. -/
  leaves : ∀ root, Leaves root file → ∀ (other : FileSystem) (cwd' : Place) (text' : String),
    other.WellFormed → other.ResolvesTo cwd' text' root →
      check other cwd' file text' = .error (.escape file root.text)

/-- A context with links inside it, out of it, to nothing and to themselves. -/
def crossroads : FileSystem :=
  ⟨[(["ctx"], .dir 0o755), (["ctx", "Dockerfile"], .file [70] 0o644 ⟨1, 0⟩),
    (["ctx", "in"], .link "Dockerfile"), (["ctx", "out"], .link "/ctxt"),
    (["ctx", "gone"], .link "nothing"), (["ctx", "loop"], .link "loop"), (["ctxt"], .dir 0o755)]⟩

end Sandbox

end ImageBuild
