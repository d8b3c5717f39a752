import ImageBuild.Proofs.Builder.Refusals
import ImageBuild.Proofs.StagingAgain
import Mathlib.Data.List.TakeWhile

/-!
# Setups into one working directory

Sections of one context can be set up one after the other in a working directory that was empty at
first. Each setup ends as that of its section alone in an empty directory would, and after each of
them the directory holds what it would hold then (`Builder.setups_in_turn`). What carries this over
the setups is `Filled`: the context and everything else outside of the directory is as it was, and
only nodes were added, so that every dockerfile is judged as at first.
-/

namespace ImageBuild

namespace Contained

variable {archived : Except ArchiveFault Archive} {workdir workdir' : Place}

/-- Where staging succeeds, everything can be put into the directory. -/
theorem unpackable_eq_of_stagingFault? (h : stagingFault? archived workdir = none)
    (h' : stagingFault? archived workdir' = none) :
    unpackable archived workdir = unpackable archived workdir' := by
  have hall : ∀ workdir, stagingFault? archived workdir = none → ∃ archive,
      archived = .ok archive ∧ unpackable archived workdir =
        archive.filter fun entry => !entry.isExcluded := by
    intro workdir h
    cases archived with
    | error fault => cases h
    | ok archive =>
      refine ⟨archive, rfl, List.takeWhile_eq_self_iff.2 fun entry hmem => ?_⟩
      unfold stagingFault? at h
      dsimp only at h
      split at h
      · cases h
      · rename_i hfound
        rw [List.findSome?_eq_none_iff.1 hfound entry hmem]
        rfl
  obtain ⟨archive, rfl, hunpackable⟩ := hall workdir h
  obtain ⟨archive', harchive, hunpackable'⟩ := hall workdir' h'
  obtain rfl := Except.ok.inj harchive
  rw [hunpackable, hunpackable']

end Contained

namespace Builder

open FileSystem

variable {σ : Type}

/-- Sets up some sections one after the other, with all results. -/
def setupEach (settings : Settings σ) (b : Builder) (w : World σ) :
    List SectionPlan → World σ × List (Except BuildError Unit)
  | [] => (w, [])
  | plan :: plans =>
    let (w, result) := setup settings (b.bind plan) w
    let (w, results) := setupEach settings b w plans
    (w, result :: results)

variable {settings : Settings σ} {b : Builder} {w v : World σ} {plan : SectionPlan}
  {plans : List SectionPlan} {root place file : Place} {done : Archive} {dockerfile : Option Node}

theorem setupEach_cons : setupEach settings b w (plan :: plans) =
    ((setupEach settings b (setup settings (b.bind plan) w).1 plans).1,
      (setup settings (b.bind plan) w).2 ::
        (setupEach settings b (setup settings (b.bind plan) w).1 plans).2) :=
  rfl

/-- How a setup of a context ends. -/
def setupResult (fs : FileSystem) (root place : Place) : Except BuildError Unit :=
  match Contained.stagingFault? (fs.archive [] root.text).2 place with
  | some fault => .error (.staging fault)
  | none => .ok ()

theorem setupResult_eq_ok_iff (h : w.files.IsReady root place) :
    setupResult w.files root place = .ok () ↔ w.files.CanBeStaged root place := by
  rw [← h.stagingFault?_eq_none_iff]
  unfold setupResult
  split <;> simp_all

/-- One setup more. -/
theorem setup_of_filled (h : Filled w.files place done dockerfile v.files)
    (hcwd : v.cwd = w.cwd) (hready : w.files.IsReady root place) (hplace : b.workdir = some place)
    (hcheck : Sandbox.check w.files w.cwd plan.dockerfile settings.context = .ok ⟨file, root⟩)
    (hdone : done <+: Contained.unpackable (w.files.archive [] root.text).2 place) :
    (setup settings (b.bind plan) v).2 = setupResult w.files root place ∧
      (setup settings (b.bind plan) v).1.cwd = w.cwd ∧
      ∃ dockerfile', Filled w.files place
          (Contained.unpackable (w.files.archive [] root.text).2 place) dockerfile'
          (setup settings (b.bind plan) v).1.files ∧
        (setupResult w.files root place = .ok () → dockerfile' = w.files.lookup file) ∧
        (setupResult w.files root place ≠ .ok () → dockerfile' = dockerfile) := by
  have haccepts : Accepts settings (b.bind plan) v ⟨file, root⟩ :=
    ⟨plan, rfl, hcwd ▸ Sandbox.check_of_extends (h.extends_before hready.empty) hcheck⟩
  have hinside := Sandbox.isInside_of_check hready.wellFormed hcheck
  rw [haccepts.setup_of_workdir hplace]
  obtain ⟨hresult, hok, herror⟩ := h.stage hready hinside.isFile hdone
  have hsetup : (v.files.stage ⟨file, root⟩ place).2.2.mapError .staging =
      setupResult w.files root place := by
    rw [hresult]
    unfold setupResult
    dsimp only
    cases Contained.stagingFault? (w.files.archive [] root.text).2 place <;> rfl
  refine ⟨hsetup, hcwd, ?_⟩
  rw [← hsetup]
  rcases hstage : (v.files.stage ⟨file, root⟩ place).2.2 with fault | _
  · exact ⟨dockerfile, herror fault hstage, nofun, fun _ => rfl⟩
  · exact ⟨w.files.lookup file, hok hstage, fun _ => rfl, fun hne => absurd rfl hne⟩

/-- Some setups more. -/
theorem setupEach_of_filled (h : Filled w.files place done dockerfile v.files)
    (hcwd : v.cwd = w.cwd) (hready : w.files.IsReady root place) (hplace : b.workdir = some place)
    (hdone : done <+: Contained.unpackable (w.files.archive [] root.text).2 place)
    {last : SectionPlan}
    (haccepted : ∀ plan ∈ plans ++ [last], ∃ file,
      Sandbox.check w.files w.cwd plan.dockerfile settings.context = .ok ⟨file, root⟩)
    (hlast : Sandbox.check w.files w.cwd last.dockerfile settings.context = .ok ⟨file, root⟩) :
    (setupEach settings b v (plans ++ [last])).2 =
        List.replicate (plans.length + 1) (setupResult w.files root place) ∧
      ∃ dockerfile', Filled w.files place
          (Contained.unpackable (w.files.archive [] root.text).2 place) dockerfile'
          (setupEach settings b v (plans ++ [last])).1.files ∧
        (setupResult w.files root place = .ok () → dockerfile' = w.files.lookup file) ∧
        (setupResult w.files root place ≠ .ok () → dockerfile' = dockerfile) := by
  induction plans generalizing done dockerfile v with
  | nil =>
    obtain ⟨hresult, -, hfilled⟩ := setup_of_filled h hcwd hready hplace hlast hdone
    rw [List.nil_append, setupEach_cons]
    exact ⟨congrArg ([·]) hresult, hfilled⟩
  | cons plan plans ih =>
    obtain ⟨file', hcheck⟩ := haccepted plan (by simp)
    obtain ⟨hresult, hcwd', dockerfile', hfilled, hok, herror⟩ :=
      setup_of_filled h hcwd hready hplace hcheck hdone
    obtain ⟨hresults, dockerfile'', hfilled', hok', herror'⟩ :=
      ih hfilled hcwd' List.prefix_rfl fun plan hmem => haccepted plan (by simp [hmem])
    rw [List.cons_append, setupEach_cons, hresult, hresults]
    exact ⟨rfl, dockerfile'', hfilled', hok', fun hne => (herror' hne).trans (herror hne)⟩

/-! ## All of them, and the last one alone -/

/-- What comes of the setups of some sections in a working directory, and of a setup of the last of
them alone in another one. -/
structure InTurn (settings : Settings σ) (b b' : Builder) (w : World σ) (root place place' : Place)
    (plans : List SectionPlan) (last : SectionPlan) : Prop where
  /-- Each setup ends as the first one does. -/
  each : (setupEach settings b w (plans ++ [last])).2 =
    List.replicate (plans.length + 1) (setupResult w.files root place)
  succeeds_iff : setupResult w.files root place = .ok () ↔ w.files.CanBeStaged root place
  alone : (setup settings (b'.bind last) w).2 = setupResult w.files root place'
  alone_succeeds_iff : setupResult w.files root place' = .ok () ↔ w.files.CanBeStaged root place'
  /-- How a setup ends depends on no more of the working directory than the lengths of its names. -/
  sameResult : place.SameLengths place' →
    setupResult w.files root place = setupResult w.files root place'
  /-- Both working directories hold the same, whether the setups succeed or fail alike. -/
  sameTree : place.SameLengths place' ∨
      w.files.CanBeStaged root place ∧ w.files.CanBeStaged root place' →
    ∀ path, path ≠ [] →
      (setupEach settings b w (plans ++ [last])).1.files.lookup (place ++ path) =
        (setup settings (b'.bind last) w).1.files.lookup (place' ++ path)
  itself : (setupEach settings b w (plans ++ [last])).1.files.lookup place = w.files.lookup place
  outside : (setupEach settings b w (plans ++ [last])).1.files.erase place = w.files.erase place

/-- Setups of one context in a working directory that was empty at first: all of them succeed, or
all of them fail, and in the end the directory holds what it would hold after the last one alone. -/
theorem setups_in_turn {b' : Builder} {place' : Place} {last : SectionPlan}
    (hplace : b.workdir = some place) (hplace' : b'.workdir = some place')
    (hready : w.files.IsReady root place) (hready' : w.files.IsReady root place')
    (haccepted : ∀ plan ∈ plans ++ [last], ∃ file,
      Sandbox.check w.files w.cwd plan.dockerfile settings.context = .ok ⟨file, root⟩) :
    InTurn settings b b' w root place place' plans last := by
  obtain ⟨file, hlast⟩ := haccepted last (by simp)
  obtain ⟨heach, dockerfile, hfilled, hok, herror⟩ :=
    setupEach_of_filled hready.filled rfl hready hplace List.nil_prefix haccepted hlast
  obtain ⟨halone, -, dockerfile', hfilled', hok', herror'⟩ :=
    setup_of_filled hready'.filled rfl hready' hplace' hlast List.nil_prefix
  have hiff := setupResult_eq_ok_iff hready
  have hiff' := setupResult_eq_ok_iff hready'
  have hsame : place.SameLengths place' →
      setupResult w.files root place = setupResult w.files root place' := by
    intro hlengths
    unfold setupResult
    rw [Contained.stagingFault?_congr hlengths]
  refine ⟨heach, hiff, halone, hiff', hsame, fun hcase path hne => ?_, hfilled.itself,
    hfilled.outside⟩
  have hresults : setupResult w.files root place = setupResult w.files root place' := by
    rcases hcase with hlengths | ⟨hcan, hcan'⟩
    · exact hsame hlengths
    · rw [hiff.2 hcan, hiff'.2 hcan']
  have hentries : Contained.unpackable (w.files.archive [] root.text).2 place =
      Contained.unpackable (w.files.archive [] root.text).2 place' := by
    rcases hcase with hlengths | ⟨hcan, hcan'⟩
    · exact Contained.unpackable_congr hlengths _
    · exact Contained.unpackable_eq_of_stagingFault? (hready.stagingFault?_eq_none_iff.2 hcan)
        (hready'.stagingFault?_eq_none_iff.2 hcan')
  have hdockerfile : dockerfile = dockerfile' := by
    by_cases h : setupResult w.files root place = .ok ()
    · rw [hok h, hok' (hresults ▸ h)]
    · rw [herror h, herror' (hresults ▸ h)]
  rw [hentries, hdockerfile] at hfilled
  exact hfilled.lookup_eq hfilled' hne

/-- A context with two dockerfiles, one of them read-only, beside two working directories. -/
def twoDockerfiles : World Unit :=
  { World.linked with
    files := ⟨[(["tmp"], .dir 0o755), (["tmp", "one"], .dir 0o700), (["tmp", "two"], .dir 0o700),
      (["ctx"], .dir 0o755), (["ctx", "Dockerfile"], .file [70] 0o644 ⟨1, 5⟩),
      (["ctx", "sub"], .dir 0o755), (["ctx", "sub", "Dockerfile"], .file [71] 0o400 ⟨2, 7⟩),
      (["ctx", "link"], .link "a//b"), (["ctx", "agent"], .socket 0o755)]⟩ }

theorem setups_in_turn_twoDockerfiles :
    let w := twoDockerfiles
    let one : Builder := ⟨some ["tmp", "one"], none⟩
    let two : Builder := ⟨some ["tmp", "two"], none⟩
    w.files.IsReady ["ctx"] ["tmp", "one"] ∧ w.files.IsReady ["ctx"] ["tmp", "two"] ∧
      InTurn .obliging one two w ["ctx"] ["tmp", "one"] ["tmp", "two"]
        [.building "sub/Dockerfile", .building "Dockerfile"] (.building "sub/Dockerfile") := by
  intro w one two
  have hfs : w.files.WellFormed := by decide +kernel
  have hready : ∀ name ∈ ["one", "two"], w.files.IsReady ["ctx"] ["tmp", name] := by
    intro name hname
    have hbelow : w.files.isDirAt ["tmp", name] = true ∧ w.files.below ["tmp", name] = [] := by
      revert name
      decide +kernel
    refine ⟨hfs, hbelow.1, hfs.below_eq_nil_iff.1 hbelow.2, by decide +kernel, ?_⟩
    simp [List.cons_prefix_cons]
  refine ⟨hready _ (by simp), hready _ (by simp),
    setups_in_turn rfl rfl (hready _ (by simp)) (hready _ (by simp)) ?_⟩
  intro plan hplan
  obtain rfl | rfl : plan = .building "sub/Dockerfile" ∨ plan = .building "Dockerfile" := by
    simp at hplan
    tauto
  · exact ⟨["ctx", "sub", "Dockerfile"], by decide +kernel⟩
  · exact ⟨["ctx", "Dockerfile"], by decide +kernel⟩

/-- The dockerfile that a setup leaves is replaced by the next one, with its permissions. -/
example :
    let files := (setupEach .obliging ⟨some ["tmp", "one"], none⟩ twoDockerfiles
      [.building "sub/Dockerfile", .building "Dockerfile"]).1.files
    files.lookup ["tmp", "one", "Dockerfile"] = some (.file [70] 0o644 ⟨1, 5⟩) ∧
      files.lookup ["tmp", "one", "agent"] = none := by
  decide +kernel

/-! ## A context that is too deep -/

/-- A world with a deep context beside a working directory. -/
def deep : World Unit :=
  { World.linked with
    files := (((deepTree 17).insert ["ctx", "Dockerfile"] (.file [70] 0o644 ⟨1, 5⟩)).insert ["tmp"]
      (.dir 0o755)).insert ["tmp", "work"] (.dir 0o700) }

theorem isReady_deep : deep.files.IsReady ["ctx"] ["tmp", "work"] := by
  have hctx : ((deepTree 17).insert ["ctx", "Dockerfile"] (.file [70] 0o644 ⟨1, 5⟩)).WellFormed :=
    (wellFormed_deepTree 17).insert (by simp) (by decide +kernel) (by decide +kernel)
      fun hdir => absurd hdir (by decide +kernel)
  have hfs : deep.files.WellFormed :=
    (hctx.insert (by simp) (by decide +kernel) (by decide +kernel) fun _ => rfl).insert (by simp)
      (by decide +kernel) (by decide +kernel) fun _ => rfl
  exact ⟨hfs, by decide +kernel, hfs.below_eq_nil_iff.1 (by decide +kernel), by decide +kernel,
    by decide⟩

/-- A setup fails without a pipe if the text of the path of a directory is too long. -/
theorem deep_not_set_up :
    let b : Builder := ⟨some ["tmp", "work"], none⟩
    let plan := SectionPlan.building "Dockerfile"
    deep.files.IsReady ["ctx"] ["tmp", "work"] ∧
      (∀ place mode, deep.files.lookup place ≠ some (.pipe mode)) ∧
      Sandbox.check deep.files deep.cwd plan.dockerfile Settings.obliging.context =
        .ok ⟨["ctx", "Dockerfile"], ["ctx"]⟩ ∧
      (setupEach .obliging b deep [plan]).2 ≠ [.ok ()] := by
  intro b plan
  have hcheck : Sandbox.check deep.files deep.cwd plan.dockerfile Settings.obliging.context =
      .ok ⟨["ctx", "Dockerfile"], ["ctx"]⟩ := by decide +kernel
  refine ⟨isReady_deep, ?_, hcheck, ?_⟩
  · intro place mode hl
    unfold deep at hl
    dsimp only at hl
    rw [lookup_insert _ _ (by simp), lookup_insert _ _ (by simp), lookup_insert _ _ (by simp)] at hl
    split_ifs at hl
    · cases hl
    · cases hl
    · cases hl
    · cases isDir_of_lookup_deepTree hl
  · intro hresult
    have hplace : b.workdir = some ["tmp", "work"] := rfl
    obtain ⟨hsetup, -⟩ :=
      setup_of_filled isReady_deep.filled rfl isReady_deep hplace hcheck List.nil_prefix
    rw [setupEach_cons, hsetup] at hresult
    have hcan := (setupResult_eq_ok_iff isReady_deep).1 (List.head_eq_of_cons_eq hresult)
    obtain ⟨mode, hlast⟩ := isDirAt_iff.1 (show deep.files.isDirAt
      (["ctx"] ++ List.replicate 17 longName) = true by decide +kernel)
    exact absurd (hcan.archivable _ _ (by simp) hlast nofun).2 (by decide +kernel)

end Builder

end ImageBuild
