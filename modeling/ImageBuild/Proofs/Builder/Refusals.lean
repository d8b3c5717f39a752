import ImageBuild.Proofs.Agreement
import ImageBuild.Proofs.Archive.Completeness
import ImageBuild.Proofs.Builder.Reuse
import ImageBuild.Proofs.Sandbox.Verdicts

/-!
# Refused setups

A setup looks at the section, at the dockerfile, at the working directory and at the context, in
this order, and archives the whole context before it puts anything into the working directory. So one
that is refused for any of these leaves nothing behind but the records of sockets it came across
(`call_setup_of_isRefusal`). Nothing that happens afterwards depends on records (`after_agree`), so a
setup that is corrected later goes as if the refused one had not been tried.
-/

namespace ImageBuild

open World

variable {σ : Type}

/-- A setup with this error ends before anything is put into the working directory. -/
inductive BuildError.IsRefusal : BuildError → Prop
  | noSection : IsRefusal .noSection
  | sandbox (fault : SandboxFault) : IsRefusal (.sandbox fault)
  | workdir (fault : WorkdirFault) : IsRefusal (.workdir fault)
  | notArchived (fault : ArchiveFault) : IsRefusal (.staging (.notArchived fault))

/-! ## Contexts that can not be archived -/

namespace FileSystem

variable {fs : FileSystem} {root : Place}

/-- A resolved place that is no directory can not be archived, and neither can one with a pipe
anywhere below it. -/
theorem WellFormed.exists_archive_error (h : fs.WellFormed) (hroot : fs.Resolved root) (cwd : Place)
    (hcontext : fs.isDirAt root = false ∨
      ∃ path mode, fs.lookup (root ++ path) = some (.pipe mode)) :
    ∃ fault, (fs.archive cwd root.text).2 = .error fault := by
  rcases ha : (fs.archive cwd root.text).2 with fault | archive
  · exact ⟨fault, rfl⟩
  obtain ⟨hresolve, hdir⟩ := hroot.resolve_of_archive ha
  rcases hcontext with hno | ⟨path, mode, hpipe⟩
  · rw [hdir] at hno
    cases hno
  · have hne : path ≠ [] := by
      rintro rfl
      obtain ⟨dirMode, hl⟩ := isDirAt_iff.1 hdir
      rw [List.append_nil, hl] at hpipe
      cases hpipe
    have harchivable := (h.exists_archive_iff hresolve hdir).1 ⟨archive, ha⟩
    exact absurd rfl ((harchivable path _ hne hpipe nofun).1 mode)

/-- A regular file can be the root of a context, with itself as the dockerfile. -/
example :
    let fs : FileSystem := ⟨[(["ctx"], .file [70] 0o644 ⟨1, 0⟩)]⟩
    Sandbox.check fs [] "." "/ctx" = .ok ⟨["ctx"], ["ctx"]⟩ ∧
      (fs.archive [] "/ctx").2 = .error (.unlisted .notADirectory) := by
  decide +kernel

/-- If the context can not be archived, that is why staging fails, and nothing was changed. -/
theorem stage_of_archive_error {c : Contained} {fault : ArchiveFault}
    (h : (fs.archive [] c.root.text).2 = .error fault) (workdir : Place) :
    fs.stage c workdir = ((fs.archive [] c.root.text).1, fs, .error (.notArchived fault)) := by
  unfold stage
  rcases ha : fs.archive [] c.root.text with ⟨records, result⟩
  rw [ha] at h
  obtain rfl : result = .error fault := h
  rfl

/-- Archiving records the sockets that it leaves out, and nothing else. -/
theorem mem_records_archive {fs : FileSystem} {cwd : Place} {dir : String} {record : LogRecord}
    (h : record ∈ (fs.archive cwd dir).1) : ∃ path, record = socketRecord path := by
  have hnodes : ∀ tree : Tree, record ∈ (archiveNodes dir tree).1 →
      ∃ path, record = socketRecord path := by
    intro tree
    induction tree with
    | nil => exact nofun
    | cons entry rest ih =>
      intro hmem
      rw [archiveNodes] at hmem
      dsimp only at hmem
      split at hmem
      · cases hmem
      · rcases List.mem_cons.1 hmem with rfl | hmem
        · exact ⟨_, rfl⟩
        · exact ih hmem
      · exact ih hmem
  unfold FileSystem.archive at h
  split at h
  · cases h
  · split_ifs at h
    · exact hnodes _ h
    · cases h

theorem archive_error_of_stage {c : Contained} {fault : ArchiveFault} {workdir : Place}
    (h : (fs.stage c workdir).2.2 = .error (.notArchived fault)) :
    (fs.archive [] c.root.text).2 = .error fault := by
  unfold stage at h
  split at h
  · rename_i ha
    rw [ha]
    simpa using h
  · split at h
    · simp at h
    · split at h <;> simp at h

end FileSystem

/-! ## What a setup comes to -/

namespace Builder

variable {settings : Settings σ} {b : Builder} {w v : World σ} {plan : SectionPlan} {c : Contained}
  {place : Place}

/-- A section is set up with the verdict on its dockerfile as it is then. -/
theorem verdict_ofPath (fs : FileSystem) (cwd : Place) (file root : String) :
    (TrustedFile.ofPath file root).verdict fs cwd = Sandbox.check fs cwd file root :=
  rfl

theorem setup_of_next_eq_none (h : b.next = none) :
    setup settings b w = (w, .error .noSection) := by
  unfold setup
  rw [h]

theorem setup_of_refused (hnext : b.next = some plan) {fault : SandboxFault}
    (hcheck : Sandbox.check w.files w.cwd plan.dockerfile settings.context = .error fault) :
    setup settings b w = (w, .error (.sandbox fault)) := by
  unfold setup
  rw [hnext]
  dsimp only
  rw [verdict_ofPath, hcheck]

/-- A section is bound, and its dockerfile is accepted. -/
def Accepts (settings : Settings σ) (b : Builder) (w : World σ) (c : Contained) : Prop :=
  ∃ plan, b.next = some plan ∧
    Sandbox.check w.files w.cwd plan.dockerfile settings.context = .ok c

theorem Accepts.setup_of_unallocated (h : Accepts settings b w c) (hworkdir : b.workdir = none) :
    setup settings b w = (w, .error (.workdir .notAllocated)) := by
  obtain ⟨plan, hnext, hcheck⟩ := h
  unfold setup
  rw [hnext]
  dsimp only
  rw [verdict_ofPath, hcheck]
  dsimp only
  rw [hworkdir]

theorem Accepts.setup_of_workdir (h : Accepts settings b w c) (hworkdir : b.workdir = some place) :
    setup settings b w =
      ({ w with files := (w.files.stage c place).2.1 }.log (w.files.stage c place).1,
        (w.files.stage c place).2.2.mapError .staging) := by
  obtain ⟨plan, hnext, hcheck⟩ := h
  unfold setup
  rw [hnext]
  dsimp only
  rw [verdict_ofPath, hcheck]
  dsimp only
  rw [hworkdir]
  dsimp only
  rcases w.files.stage c place with ⟨records, files, fault | _⟩ <;> rfl

theorem Accepts.setup_of_archive_error (h : Accepts settings b w c)
    (hworkdir : b.workdir = some place) {fault : ArchiveFault}
    (harchive : (w.files.archive [] c.root.text).2 = .error fault) :
    setup settings b w = (w.log (w.files.archive [] c.root.text).1,
      .error (.staging (.notArchived fault))) := by
  rw [h.setup_of_workdir hworkdir, FileSystem.stage_of_archive_error harchive]
  rfl

/-- What a setup comes to. -/
inductive SetupOutcome (settings : Settings σ) (b : Builder) (w : World σ) :
    Except BuildError Unit → Prop
  | noSection (hnext : b.next = none) : SetupOutcome settings b w (.error .noSection)
  | refused {plan : SectionPlan} {fault : SandboxFault} (hnext : b.next = some plan)
      (hcheck : Sandbox.check w.files w.cwd plan.dockerfile settings.context = .error fault) :
      SetupOutcome settings b w (.error (.sandbox fault))
  | unallocated {c : Contained} (haccepts : Accepts settings b w c) (hworkdir : b.workdir = none) :
      SetupOutcome settings b w (.error (.workdir .notAllocated))
  | notStaged {c : Contained} {place : Place} {fault : StagingFault}
      (haccepts : Accepts settings b w c) (hworkdir : b.workdir = some place)
      (hstage : (w.files.stage c place).2.2 = .error fault) :
      SetupOutcome settings b w (.error (.staging fault))
  | staged {c : Contained} {place : Place} (haccepts : Accepts settings b w c)
      (hworkdir : b.workdir = some place) (hstage : (w.files.stage c place).2.2 = .ok ()) :
      SetupOutcome settings b w (.ok ())

theorem setupOutcome (settings : Settings σ) (b : Builder) (w : World σ) :
    SetupOutcome settings b w (setup settings b w).2 := by
  rcases hnext : b.next with _ | plan
  · rw [setup_of_next_eq_none hnext]
    exact .noSection hnext
  rcases hcheck : Sandbox.check w.files w.cwd plan.dockerfile settings.context with fault | c
  · rw [setup_of_refused hnext hcheck]
    exact .refused hnext hcheck
  have haccepts : Accepts settings b w c := ⟨plan, hnext, hcheck⟩
  rcases hworkdir : b.workdir with _ | place
  · rw [haccepts.setup_of_unallocated hworkdir]
    exact .unallocated haccepts hworkdir
  · rw [haccepts.setup_of_workdir hworkdir]
    rcases hstage : (w.files.stage c place).2.2 with fault | _
    · exact .notStaged haccepts hworkdir hstage
    · exact .staged haccepts hworkdir hstage

/-- A refused setup changes nothing, but it may have recorded sockets in the context. -/
theorem call_setup_of_isRefusal {e : BuildError} (h : (setup settings b w).2 = .error e)
    (he : e.IsRefusal) : ∃ records, b.call settings w .setup = (b, w.log records) ∧
      ∀ r ∈ records, ∃ path, r = socketRecord path := by
  have hunchanged : (setup settings b w).1 = w → ∃ records,
      b.call settings w .setup = (b, w.log records) ∧
        ∀ r ∈ records, ∃ path, r = socketRecord path := by
    intro hw
    refine ⟨[], ?_, List.forall_mem_nil _⟩
    change (b, (setup settings b w).1) = _
    rw [hw]
    simp [World.log]
  have houtcome := setupOutcome settings b w
  rw [h] at houtcome
  cases houtcome with
  | noSection hnext => exact hunchanged (by rw [setup_of_next_eq_none hnext])
  | refused hnext hcheck => exact hunchanged (by rw [setup_of_refused hnext hcheck])
  | unallocated haccepts hworkdir =>
    exact hunchanged (by rw [haccepts.setup_of_unallocated hworkdir])
  | notStaged haccepts hworkdir hstage =>
    cases he with
    | notArchived fault =>
      have hsetup :=
        haccepts.setup_of_archive_error hworkdir (FileSystem.archive_error_of_stage hstage)
      exact ⟨_, congrArg (b, Prod.fst ·) hsetup, fun r => FileSystem.mem_records_archive⟩

/-! ## Which error comes first -/

/-- The errors of a setup in the order in which they are looked for. -/
structure Precedence (settings : Settings σ) (b : Builder) (w : World σ) : Prop where
  noSection_iff : (setup settings b w).2 = .error .noSection ↔ b.next = none
  sandbox_iff : ∀ fault, (setup settings b w).2 = .error (.sandbox fault) ↔
    ∃ plan, b.next = some plan ∧
      Sandbox.check w.files w.cwd plan.dockerfile settings.context = .error fault
  workdir_iff : ∀ fault, (setup settings b w).2 = .error (.workdir fault) ↔
    fault = .notAllocated ∧ (∃ c, Accepts settings b w c) ∧ b.workdir = none
  staging_iff : ∀ fault, (setup settings b w).2 = .error (.staging fault) ↔
    ∃ c place, Accepts settings b w c ∧ b.workdir = some place ∧
      (w.files.stage c place).2.2 = .error fault
  /-- A dockerfile outside of the root is refused as such, whatever else is wrong. -/
  outside : w.files.WellFormed → ∀ plan root, b.next = some plan →
    w.files.ResolvesTo w.cwd settings.context root →
    (Sandbox.Leaves root plan.dockerfile ∨ ∃ place resolved : Place,
      (Path.ofText (joinText root.text plan.dockerfile)).names? = some place ∧
        w.files.ResolvesTo [] place.text resolved ∧ ¬ root <+: resolved) →
    (setup settings b w).2 = .error (.sandbox (.escape plan.dockerfile root.text))
  /-- What can not be archived is not staged. -/
  notArchived : w.files.WellFormed → ∀ c place, Accepts settings b w c → b.workdir = some place →
    (w.files.isDirAt c.root = false ∨
      ∃ path mode, w.files.lookup (c.root ++ path) = some (.pipe mode)) →
    ∃ fault, (setup settings b w).2 = .error (.staging (.notArchived fault))

theorem precedence (settings : Settings σ) (b : Builder) (w : World σ) :
    Precedence settings b w := by
  have houtcome := setupOutcome settings b w
  constructor
  case noSection_iff =>
    refine ⟨fun h => ?_, fun hnext => by rw [setup_of_next_eq_none hnext]⟩
    rw [h] at houtcome
    cases houtcome with
    | noSection hnext => exact hnext
  case sandbox_iff =>
    intro fault
    refine ⟨fun h => ?_, fun ⟨plan, hnext, hcheck⟩ => by rw [setup_of_refused hnext hcheck]⟩
    rw [h] at houtcome
    cases houtcome with
    | refused hnext hcheck => exact ⟨_, hnext, hcheck⟩
  case workdir_iff =>
    intro fault
    refine ⟨fun h => ?_, ?_⟩
    · rw [h] at houtcome
      cases houtcome with
      | unallocated haccepts hworkdir => exact ⟨rfl, ⟨_, haccepts⟩, hworkdir⟩
    · rintro ⟨rfl, ⟨c, haccepts⟩, hworkdir⟩
      rw [haccepts.setup_of_unallocated hworkdir]
  case staging_iff =>
    intro fault
    refine ⟨fun h => ?_, ?_⟩
    · rw [h] at houtcome
      cases houtcome with
      | notStaged haccepts hworkdir hstage => exact ⟨_, _, haccepts, hworkdir, hstage⟩
    · rintro ⟨c, place, haccepts, hworkdir, hstage⟩
      rw [haccepts.setup_of_workdir hworkdir, hstage]
      rfl
  case outside =>
    intro hfs plan root hnext hroot houtside
    have hdue : Sandbox.IsDue w.files w.cwd plan.dockerfile settings.context
        (.error (.escape plan.dockerfile root.text)) := ⟨rfl, root, hroot, rfl, houtside⟩
    rw [setup_of_refused hnext (hdue.check_eq hfs)]
  case notArchived =>
    intro hfs c place haccepts hworkdir hcontext
    obtain ⟨plan, -, hcheck⟩ := id haccepts
    obtain ⟨fault, harchive⟩ :=
      hfs.exists_archive_error (Sandbox.isInside_of_check hfs hcheck).root_resolved [] hcontext
    exact ⟨fault, by rw [haccepts.setup_of_archive_error hworkdir harchive]⟩

/-! ## What happens later -/

/-- What can happen after a setup: a call of the builder, or a change of the files and of the
services from outside. -/
inductive Happening (σ : Type)
  | call (c : Call)
  | changed (files : FileSystem → FileSystem) (service : σ → σ)

/-- A builder and the world after something happened. -/
def happen (settings : Settings σ) : Builder × World σ → Happening σ → Builder × World σ
  | (b, w), .call c => b.call settings w c
  | (b, w), .changed files service =>
    (b, { w with files := files w.files, service := service w.service })

/-- A builder and the world after some things happened, one after the other. -/
def after (settings : Settings σ) (b : Builder) (w : World σ) (happenings : List (Happening σ)) :
    Builder × World σ :=
  happenings.foldl (happen settings) (b, w)

/-- The same builder, in worlds that agree. -/
def Alike (keep : LogRecord → Bool) (r r' : Builder × World σ) : Prop :=
  r.1 = r'.1 ∧ Agree keep r.2 r'.2

variable {keep : LogRecord → Bool}

theorem alike_of_sameResult {α : Type} (f : α → Builder) {r r' : World σ × α}
    (h : SameResult (Agree keep) r r') : Alike keep (f r.2, r.1) (f r'.2, r'.1) := by
  obtain ⟨w, v, a, rfl, rfl, hagree⟩ := h.exists
  exact ⟨rfl, hagree⟩

theorem call_agree (settings : Settings σ) (b : Builder) (h : Agree keep w v) (c : Call) :
    Alike keep (b.call settings w c) (b.call settings v c) := by
  cases c with
  | clean => exact alike_of_sameResult Prod.fst ((onFiles_clean b).sameResult keptByWork_agree h)
  | release => exact alike_of_sameResult id ((onFiles_release b).sameResult keptByWork_agree h)
  | bind plan => exact ⟨rfl, h⟩
  | setup =>
    exact alike_of_sameResult (fun _ => b) ((onFiles_setup settings b).sameResult keptByWork_agree h)
  | runSteps plan => exact alike_of_sameResult (fun _ => b) (runSteps_agree settings b plan h)
  | runPlan plans => exact alike_of_sameResult Prod.fst (runPlan_agree settings b plans h)

theorem happen_agree (settings : Settings σ) {r r' : Builder × World σ} (h : Alike keep r r')
    (happening : Happening σ) :
    Alike keep (happen settings r happening) (happen settings r' happening) := by
  obtain ⟨b, w⟩ := r
  obtain ⟨b', v⟩ := r'
  obtain ⟨rfl, hagree⟩ : b = b' ∧ Agree keep w v := h
  cases happening with
  | call c => exact call_agree settings b hagree c
  | changed files service =>
    cases hagree with
    | intro records hrecords => exact ⟨rfl, .intro records hrecords⟩

/-- Whatever happens to a builder in worlds that agree, they agree afterwards. -/
theorem after_agree (settings : Settings σ) (b : Builder) (h : Agree keep w v)
    (happenings : List (Happening σ)) :
    Alike keep (b.after settings w happenings) (b.after settings v happenings) := by
  have key : ∀ r r' : Builder × World σ, Alike keep r r' →
      Alike keep (happenings.foldl (happen settings) r) (happenings.foldl (happen settings) r') := by
    induction happenings with
    | nil => exact fun _ _ h => h
    | cons happening rest ih => exact fun r r' h => ih _ _ (happen_agree settings h happening)
  exact key (b, w) (b, v) ⟨rfl, h⟩

/-- A setup in two worlds does the same. -/
def SameSetup (settings : Settings σ) (b : Builder) (w v : World σ) : Prop :=
  ∃ files serial records result, setup settings b w = (w.worked files serial records, result) ∧
    setup settings b v = (v.worked files serial records, result)

/-- What is left of a setup that is refused. -/
structure LeavesNothing (settings : Settings σ) (b : Builder) (w : World σ)
    (records : List LogRecord) : Prop where
  /-- The builder and the world are as they were before, but for some records. -/
  call_eq : b.call settings w .setup = (b, w.log records)
  /-- These are of sockets in the context. -/
  sockets : ∀ r ∈ records, ∃ path, r = socketRecord path
  /-- Whatever happens later, it comes to the same as without the refused setup, and so does the next
  setup. -/
  later : ∀ happenings : List (Happening σ), ∃ b' w' v',
    b.after settings (w.log records) happenings = (b', w') ∧
      b.after settings w happenings = (b', v') ∧ Agree (fun r => r ∉ records) w' v' ∧
      SameSetup settings b' w' v'

/-- A refused setup leaves everything as it was, and which error it is refused with follows from the
order in which a setup looks at the section, the dockerfile, the working directory and the
context. -/
theorem refusals (settings : Settings σ) (b : Builder) (w : World σ) :
    (∀ e, (setup settings b w).2 = .error e → e.IsRefusal →
      ∃ records, LeavesNothing settings b w records) ∧
    Precedence settings b w := by
  refine ⟨fun e h he => ?_, precedence settings b w⟩
  obtain ⟨records, hcall, hsockets⟩ := call_setup_of_isRefusal h he
  have hagree : Agree (fun r => r ∉ records) (w.log records) w := by
    have hnone : records.filter (fun r => r ∉ records) = [] := List.filter_eq_nil_iff.2 (by simp)
    refine .intro w.records ?_
    change (w.records ++ records).filter _ = _
    rw [List.filter_append, hnone, List.append_nil]
  refine ⟨records, hcall, hsockets, fun happenings => ?_⟩
  obtain ⟨hbuilder, hworld⟩ := after_agree settings b hagree happenings
  refine ⟨(b.after settings (w.log records) happenings).1,
    (b.after settings (w.log records) happenings).2, (b.after settings w happenings).2, rfl,
    Prod.ext hbuilder.symm rfl, hworld, ?_⟩
  exact onFiles_setup settings _ _ _ hworld.sameFiles

/-- A context with a socket, and a pipe in one of its directories, beside a working directory. -/
def piped : World Unit :=
  { World.linked with
    files := ⟨[(["tmp"], .dir 0o755), (["tmp", "work"], .dir 0o700), (["ctx"], .dir 0o755),
      (["ctx", "Dockerfile"], .file [70] 0o644 ⟨1, 5⟩), (["ctx", "agent"], .socket 0o755),
      (["ctx", "sub"], .dir 0o755), (["ctx", "sub", "pipe"], .pipe 0o644)]⟩ }

theorem refusals_piped :
    let b : Builder := ⟨some ["tmp", "work"], some (.building "Dockerfile")⟩
    piped.files.WellFormed ∧ (∃ fault, (setup .obliging b piped).2 =
      .error (.staging (.notArchived fault))) ∧
      ∃ records, LeavesNothing Settings.obliging b piped records := by
  intro b
  have hfs : piped.files.WellFormed := by decide +kernel
  have haccepts : Accepts .obliging b piped ⟨["ctx", "Dockerfile"], ["ctx"]⟩ :=
    ⟨_, rfl, by decide +kernel⟩
  obtain ⟨hrefused, hprecedence⟩ := refusals Settings.obliging b piped
  obtain ⟨fault, hfault⟩ := hprecedence.notArchived hfs _ ["tmp", "work"] haccepts rfl
    (Or.inr ⟨["sub", "pipe"], 0o644, by decide +kernel⟩)
  exact ⟨hfs, ⟨fault, hfault⟩, hrefused _ hfault (.notArchived fault)⟩

/-- Without the pipe, what was refused before is staged. -/
example :
    let b : Builder := ⟨some ["tmp", "work"], some (.building "Dockerfile")⟩
    let corrected := b.after .obliging piped
      [.call .setup, .changed (·.erase ["ctx", "sub", "pipe"]) id, .call .setup]
    corrected.2.files.lookup ["tmp", "work", "Dockerfile"] = some (.file [70] 0o644 ⟨1, 5⟩) ∧
      corrected.2.files.lookup ["tmp", "work", "agent"] = none := by
  decide +kernel

end Builder

end ImageBuild
