import ImageBuild.Proofs.Builder.Refusals

/-!
# Roots that are no directories

Nothing looks at what stands at the root of a context before it is archived. That an accepted
dockerfile lies strictly below a directory follows for every root but one: a regular file below
which a dockerfile text names nothing, so that the root itself is taken for the dockerfile
(`Sandbox.NamesRoot`). Such a context is accepted, and it is not refused before it is archived
(`Builder.contextRoots`).
-/

namespace ImageBuild

namespace Sandbox

open FileSystem

variable {fs : FileSystem} {cwd root place resolved : Place} {file text : String} {c : Contained}

/-- A dockerfile text names its own root, and that is a regular file. -/
structure NamesRoot (fs : FileSystem) (cwd : Place) (file text : String) (root : Place) :
    Prop where
  resolves : fs.ResolvesTo cwd text root
  isFile : fs.isFileAt root = true
  /-- Behind the text of the root it leaves the root and nothing else. -/
  names : (Path.ofText (joinText root.text file)).names? = some root
  /-- The text of the root leads back to it. -/
  back : fs.ResolvesTo [] root.text root

theorem NamesRoot.check_eq (hfs : fs.WellFormed) (h : NamesRoot fs cwd file text root) :
    check fs cwd file text = .ok ⟨root, root⟩ := by
  rw [check_of_namesInside hfs h.resolves ⟨h.names, List.prefix_rfl⟩, canonical_eq_ok_iff.2 h.back,
    judge_of_isFileAt List.prefix_rfl h.isFile]

theorem NamesInside.isName (h : NamesInside root file place) : ∀ n ∈ place, Path.IsName n :=
  Path.isName_of_names? h.names fun _ => Path.isName_of_mem_ofText

theorem NamesRoot.isDirAt (h : NamesRoot fs cwd file text root) : fs.isDirAt root = false :=
  isDirAt_of_isFileAt h.isFile

/-- Nothing can be reached below what is no directory. -/
theorem eq_root_of_resolvesTo (hroot : fs.Resolved root) (hno : fs.isDirAt root = false)
    (hin : NamesInside root file place) (h : fs.ResolvesTo [] place.text resolved) :
    place = root := by
  obtain ⟨below, rfl⟩ := hin.inside
  rcases eq_or_ne below [] with rfl | hne
  · exact List.append_nil root
  have hexisting := canonical_eq_ok_iff.2 h
  unfold canonical at hexisting
  rw [existing_destination_text fs _ hin.isName] at hexisting
  split_ifs at hexisting
  have hfound := Destination.existing_eq_ok_iff.1 hexisting
  have hsteps : namesToSteps (root ++ below) = namesToSteps root ++ namesToSteps below :=
    List.map_append
  have hlink : ∀ r, r <+: root → r ≠ [] → ∀ target, fs.lookup ([] ++ r) ≠ some (.link target) :=
    fun r hr _ => hroot.lookup_ne_link hr
  -- the names of the root lead to it, if anywhere, and no step can be taken from there
  obtain ⟨fault, hfailed⟩ : ∃ fault,
      fs.advance (some pathLimit) [] (namesToSteps (root ++ below)) = .failed fault := by
    rw [hsteps]
    rcases advance_names_cases (some pathLimit) (namesToSteps below) hlink with hfailed |
      ⟨-, hnil, -⟩ | ⟨-, hadvance⟩
    · exact hfailed
    · exact absurd (List.map_eq_nil_iff.1 hnil) hne
    · obtain ⟨name, names, rfl⟩ := List.exists_cons_of_ne_nil hne
      rw [hadvance]
      exact advance_of_not_isDirAt _ hno _ _
  rw [walk_of_advance_failed hfailed] at hfound
  cases hfound

/-- An accepted dockerfile lies strictly below a directory, or is its own root. -/
theorem below_or_namesRoot (hfs : fs.WellFormed) (h : check fs cwd file text = .ok c) :
    (fs.isDirAt c.root = true ∧ c.root <+: c.file ∧ c.root.length < c.file.length) ∨
      c.file = c.root ∧ NamesRoot fs cwd file text c.root := by
  obtain ⟨v, hdue⟩ := exists_isDue hfs cwd file text
  obtain rfl : v = .ok c := (hdue.check_eq hfs).symm.trans h
  obtain ⟨hroot, place, hin, hresolved, hpre, hfile, -⟩ := hdue
  by_cases heq : c.root = c.file
  · rw [← heq] at hresolved hfile
    have hplace : place = c.root := eq_root_of_resolvesTo
      (hfs.resolved_of_canonical (canonical_eq_ok_iff.2 hroot)) (isDirAt_of_isFileAt hfile) hin
      hresolved
    subst hplace
    exact Or.inr ⟨heq.symm, hroot, hfile, hin.names, hresolved⟩
  · obtain ⟨content, mode, time, hl⟩ := isFileAt_iff.1 hfile
    refine Or.inl ⟨hfs.isDirAt_of_prefix hl hpre heq, hpre, ?_⟩
    exact lt_of_le_of_ne hpre.length_le fun hlength => heq (hpre.eq_of_length hlength)

end Sandbox

/-- A root that is no directory is not even looked through. -/
theorem FileSystem.Resolved.archive_of_not_isDirAt {fs : FileSystem} {root : Place}
    (hroot : fs.Resolved root) (hno : fs.isDirAt root = false) (cwd : Place) :
    ∃ cause, fs.archive cwd root.text = ([], .error (.unlisted cause)) := by
  unfold FileSystem.archive
  rcases hresolve : fs.resolve cwd (joinText root.text "") with cause | place
  · exact ⟨cause, rfl⟩
  · obtain rfl := hroot.eq_of_resolve hresolve
    exact ⟨.notADirectory, by simp [hno]⟩

namespace Builder

variable {σ : Type} {settings : Settings σ} {b : Builder} {w : World σ}

/-- What comes of a context root. -/
structure ContextRoots (settings : Settings σ) (b : Builder) (w : World σ) : Prop where
  /-- What is accepted lies strictly below a directory, unless it is named as its own root. -/
  below : ∀ file text c, Sandbox.check w.files w.cwd file text = .ok c →
    (w.files.isDirAt c.root = true ∧ c.root <+: c.file ∧ c.root.length < c.file.length) ∨
      c.file = c.root ∧ Sandbox.NamesRoot w.files w.cwd file text c.root
  /-- What is named as its own root is accepted. -/
  itself : ∀ file text root, Sandbox.NamesRoot w.files w.cwd file text root →
    Sandbox.check w.files w.cwd file text = .ok ⟨root, root⟩
  /-- A root that does not resolve or is no directory is refused by the sandbox, and nothing is
  touched, unless the dockerfile is named as its own root. -/
  refused : ∀ plan, b.next = some plan →
    (∀ root, w.files.ResolvesTo w.cwd settings.context root → w.files.isDirAt root = false) →
    (∀ root, ¬ Sandbox.NamesRoot w.files w.cwd plan.dockerfile settings.context root) →
    ∃ fault, setup settings b w = (w, .error (.sandbox fault)) ∧
      (BuildError.sandbox fault).exitCode = 3
  /-- If it is, only archiving it fails, which leaves everything as it was, too. -/
  notArchived : ∀ plan root workdir, b.next = some plan → b.workdir = some workdir →
    Sandbox.NamesRoot w.files w.cwd plan.dockerfile settings.context root →
    ∃ cause, setup settings b w = (w, .error (.staging (.notArchived (.unlisted cause)))) ∧
      (BuildError.staging (.notArchived (.unlisted cause))).exitCode = 5

theorem contextRoots (settings : Settings σ) (b : Builder) (w : World σ)
    (hfs : w.files.WellFormed) : ContextRoots settings b w := by
  constructor
  case below => exact fun file text c => Sandbox.below_or_namesRoot hfs
  case itself => exact fun file text root h => h.check_eq hfs
  case refused =>
    intro plan hnext hno hnot
    rcases hcheck : Sandbox.check w.files w.cwd plan.dockerfile settings.context with fault | c
    · exact ⟨fault, setup_of_refused hnext hcheck, rfl⟩
    · rcases Sandbox.below_or_namesRoot hfs hcheck with ⟨hdir, -⟩ | ⟨-, hnames⟩
      · have hroot := (Sandbox.isInside_of_check hfs hcheck).canonical_root
        rw [hno c.root (FileSystem.canonical_eq_ok_iff.1 hroot)] at hdir
        cases hdir
      · exact absurd hnames (hnot c.root)
  case notArchived =>
    intro plan root workdir hnext hworkdir hnames
    have haccepts : Accepts settings b w ⟨root, root⟩ := ⟨plan, hnext, hnames.check_eq hfs⟩
    obtain ⟨cause, harchive⟩ := (hfs.resolved_of_canonical
      (FileSystem.canonical_eq_ok_iff.2 hnames.resolves)).archive_of_not_isDirAt hnames.isDirAt []
    refine ⟨cause, ?_, rfl⟩
    rw [haccepts.setup_of_archive_error hworkdir (congrArg Prod.snd harchive), harchive]
    simp [World.log]

/-- A context that is a regular file. -/
def fileWorld : World Unit :=
  { World.linked with
    files := ⟨[(["tmp"], .dir 0o755), (["tmp", "work"], .dir 0o700),
      (["ctx"], .file [70] 0o644 ⟨1, 0⟩)]⟩ }

theorem contextRoots_fileWorld :
    let b : Builder := ⟨some ["tmp", "work"], some (.building "Dockerfile")⟩
    fileWorld.files.WellFormed ∧ fileWorld.files.isDirAt ["ctx"] = false ∧
      ∃ fault, setup .obliging b fileWorld = (fileWorld, .error (.sandbox fault)) := by
  intro b
  have hfs : fileWorld.files.WellFormed := by decide +kernel
  have hno : fileWorld.files.isDirAt ["ctx"] = false := by decide +kernel
  have hcanonical : fileWorld.files.canonical [] "/ctx" = .ok ["ctx"] := by decide +kernel
  have hroot : ∀ root, fileWorld.files.ResolvesTo [] "/ctx" root → root = ["ctx"] := fun root h =>
    Except.ok.inj ((FileSystem.canonical_eq_ok_iff.2 h).symm.trans hcanonical)
  have hnames : (Path.ofText (joinText (Place.text ["ctx"]) "Dockerfile")).names? =
    some ["ctx", "Dockerfile"] := by decide +kernel
  refine ⟨hfs, hno, ?_⟩
  obtain ⟨fault, hsetup, -⟩ := (contextRoots Settings.obliging b fileWorld hfs).refused _ rfl
    (fun root h => hroot root h ▸ hno) fun root h => by
      have hsame := h.names
      rw [hroot root h.resolves] at hsame
      exact absurd (hnames.symm.trans hsame) (by decide)
  exact ⟨fault, hsetup⟩

/-- A context that is a regular file is accepted as its own dockerfile; only archiving it fails. -/
theorem file_is_own_root :
    let b : Builder := ⟨some ["tmp", "work"], some (.building ".")⟩
    fileWorld.files.isDirAt ["ctx"] = false ∧
      Sandbox.check fileWorld.files [] "." "/ctx" = .ok ⟨["ctx"], ["ctx"]⟩ ∧
      (setup .obliging b fileWorld).2 =
        .error (.staging (.notArchived (.unlisted .notADirectory))) := by
  intro b
  have hcheck : Sandbox.check fileWorld.files [] "." "/ctx" = .ok ⟨["ctx"], ["ctx"]⟩ := by
    decide +kernel
  have haccepts : Accepts .obliging b fileWorld ⟨["ctx"], ["ctx"]⟩ := ⟨_, rfl, hcheck⟩
  have harchive : (fileWorld.files.archive [] (Place.text ["ctx"])).2 =
    .error (.unlisted .notADirectory) := by decide +kernel
  exact ⟨by decide +kernel, hcheck, by rw [haccepts.setup_of_archive_error rfl harchive]⟩

end Builder

end ImageBuild
