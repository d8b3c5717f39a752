import ImageBuild.CommandLine.Run
import ImageBuild.Proofs.Builder.Results

/-!
# Exit codes

A process whose arguments ask for a run ends with zero exactly if its configuration is loaded, it
gets the backend that it needs and the run ends without an error; else it ends with the code of an
error, which is never one (`exitStatus_of_run`). That takes a filter for the records of the run: a
severed directive ends the process before it does anything (`exitStatus_severed`).
-/

namespace ImageBuild

variable {σ : Type}

/-! ## Codes of errors -/

theorem BuildError.exitCode_of_isFinal {e : BuildError} (h : e.isFinal = true) :
    2 ≤ e.exitCode ∧ e.exitCode ≤ 7 := by
  cases e with
  | noSection | notConfigured | noImage => cases h
  | _ => simp [exitCode]

theorem Config.isConfig_of_load {fs : FileSystem} {cwd : Place} {path : String} {e : BuildError}
    (h : Config.load fs cwd path = .error e) : ∃ cause, e = .config cause := by
  unfold Config.load at h
  split at h
  · exact ⟨_, (Except.error.inj h).symm⟩
  · split at h
    · exact ⟨_, (Except.error.inj h).symm⟩
    · unfold Config.parse at h
      split at h
      · cases h
      · exact ⟨_, (Except.error.inj h).symm⟩

namespace CommandLine

variable {services : Services σ} {arguments : Arguments} {config : Config} {w : World σ}

/-- The backend of a run, once it is obtained: a dry run has none, any other run has the one that it
is connected to. -/
inductive Obtained (services : Services σ) (arguments : Arguments) : Option (Backend σ) → Prop
  | dry (hdry : arguments.dryRun = true) : Obtained services arguments none
  | connected {backend : Backend σ} (hdry : arguments.dryRun = false)
      (hconnection : services.connection = .ok backend) : Obtained services arguments (some backend)

/-- The world in which the sections of a run begin: a dry run is recorded. -/
def begun (arguments : Arguments) (w : World σ) : World σ :=
  if arguments.dryRun then w.log [dryRunRecord] else w

/-- A run with the backend that it needs. -/
theorem runConfig_of_obtained {backend : Option (Backend σ)}
    (h : Obtained services arguments backend) :
    runConfig services arguments config w =
      compileAndRun (settings services arguments backend) services.draw 1 config
        (begun arguments w) := by
  unfold runConfig begun
  cases h with
  | dry hdry => rw [if_pos hdry, if_pos hdry]
  | connected hdry hconnection => simp only [hdry, hconnection, Bool.false_eq_true, if_false]

/-- A run that does not get its backend fails to connect to it. -/
theorem runConfig_of_not_obtained (config : Config) (w : World σ)
    (h : ∀ backend, ¬ Obtained services arguments backend) :
    ∃ frames, runConfig services arguments config w = (w, .error (.backend "connect" frames)) := by
  have hdry : arguments.dryRun = false := by
    by_contra hdry
    exact h none (.dry (by simpa using hdry))
  unfold runConfig
  rw [if_neg (by simp [hdry])]
  rcases hconnection : services.connection with frames | backend
  · exact ⟨frames, rfl⟩
  · exact absurd (.connected hdry hconnection) (h (some backend))

/-- The codes of the errors of a command line. -/
theorem exitCode_of_run {e : BuildError} (h : (run services arguments w).2 = .error e) :
    2 ≤ e.exitCode ∧ e.exitCode ≤ 7 := by
  unfold run at h
  split at h
  · rename_i hload
    obtain ⟨cause, rfl⟩ := Config.isConfig_of_load hload
    simp [← Except.error.inj h, BuildError.exitCode]
  · by_cases hobtained : ∃ backend, Obtained services arguments backend
    · obtain ⟨backend, hobtained⟩ := hobtained
      rw [runConfig_of_obtained hobtained] at h
      exact BuildError.exitCode_of_isFinal (compileAndRun_surfaced h).isFinal
    · rename_i config _
      obtain ⟨frames, hrun⟩ := runConfig_of_not_obtained config w (not_exists.1 hobtained)
      rw [hrun] at h
      simp [← Except.error.inj h, BuildError.exitCode]

/-- When a command line succeeds. -/
theorem run_ok_iff :
    (run services arguments w).2 = .ok () ↔
      ∃ config backend, Config.load w.files w.cwd arguments.config = .ok config ∧
        Obtained services arguments backend ∧
        (compileAndRun (settings services arguments backend) services.draw 1 config
          (begun arguments w)).2 = .ok () := by
  unfold run
  constructor
  · intro h
    split at h
    · cases h
    · rename_i config hload
      by_cases hobtained : ∃ backend, Obtained services arguments backend
      · obtain ⟨backend, hobtained⟩ := hobtained
        rw [runConfig_of_obtained hobtained] at h
        exact ⟨config, backend, hload, hobtained, h⟩
      · obtain ⟨frames, hrun⟩ := runConfig_of_not_obtained config w (not_exists.1 hobtained)
        rw [hrun] at h
        cases h
  · rintro ⟨config, backend, hload, hobtained, hrun⟩
    rw [hload]
    dsimp only
    rwa [runConfig_of_obtained hobtained]

theorem exitCode_eq_zero_iff {result : Except BuildError Unit} (h : ∀ e, result = .error e →
    2 ≤ e.exitCode) : exitCode result = 0 ↔ result = .ok () := by
  rcases result with e | ⟨⟩
  · have hcode := h e rfl
    refine iff_of_false (fun hzero => ?_) nofun
    rw [show e.exitCode = 0 from hzero] at hcode
    exact absurd hcode (by decide)
  · exact iff_of_true rfl rfl

/-- What a run of a configuration ends with, and the exit code of a process that asks for a run. -/
theorem exitStatus_of_run :
    (∀ (settings : Settings σ) (draw : Nat → String) (used : Nat) (config : Config) (w : World σ),
      (compileAndRun settings draw used config w).2 = .ok () ∨
        ∃ e, (compileAndRun settings draw used config w).2 = .error e ∧ e.isFinal = true ∧
          Surfaced settings w (compileAndRun settings draw used config w).1 e) ∧
    ∀ (services : Services σ) (arguments : Arguments) (env : Variables) (w : World σ),
      (logFilter arguments env = none ∧
        exitStatus (outcome services arguments env w) = crashExitCode) ∨
      ((exitStatus (outcome services arguments env w) = 0 ↔
          ∃ config backend, Config.load w.files w.cwd arguments.config = .ok config ∧
            Obtained services arguments backend ∧
            (compileAndRun (settings services arguments backend) services.draw 1 config
              (begun arguments w)).2 = .ok ()) ∧
        (exitStatus (outcome services arguments env w) ≠ 0 →
          2 ≤ exitStatus (outcome services arguments env w) ∧
            exitStatus (outcome services arguments env w) ≤ 7)) := by
  refine ⟨fun settings draw used config w => ?_, fun services arguments env w => ?_⟩
  · rcases hrun : (compileAndRun settings draw used config w).2 with e | ⟨⟩
    · have hsurfaced := compileAndRun_surfaced hrun
      exact Or.inr ⟨e, rfl, hsurfaced.isFinal, hsurfaced⟩
    · exact Or.inl rfl
  · rcases hfilter : logFilter arguments env with _ | filter
    · refine Or.inl ⟨rfl, ?_⟩
      rw [outcome, hfilter]
      rfl
    · have houtcome : exitStatus (outcome services arguments env w)
          = exitCode (run services arguments w).2 := by
        rw [outcome, hfilter]
        rfl
      rw [houtcome]
      refine Or.inr ⟨?_, fun hne => ?_⟩
      · rw [← run_ok_iff]
        exact exitCode_eq_zero_iff fun e he => (exitCode_of_run he).1
      · rcases hrun : (run services arguments w).2 with e | ⟨⟩
        · exact exitCode_of_run hrun
        · rw [hrun] at hne
          exact absurd rfl hne

/-! ## Severed directives -/

/-- Services of dry runs. -/
def Services.detached : Services Unit where
  connection := .error ["no container daemon can be reached"]
  provider := (FixedAnswers.mk none none none).provider
  draw := fun n => uuidOfBits n

/-- A configuration of one section, beside its dockerfile. -/
def configuredFiles : FileSystem where
  nodes := [
    (["tmp"], .dir 0o777),
    (["ctx"], .dir 0o755),
    (["ctx", "Dockerfile"], .file "FROM scratch\n".toUTF8.toList 0o644 ⟨0, 0⟩),
    (["ctx", "build.json"], .file
      "[1, [[\"app\", \"Dockerfile\", \"\", \"app\"]]]".toUTF8.toList 0o644 ⟨0, 0⟩)]

/-- The arguments of a dry run whose records are filtered. -/
def dryRunWith (filter : String) : Arguments := ⟨"/ctx/build.json", none, false, true, some filter⟩

/-- A dry run that would succeed ends neither with zero nor with the code of an error if its filter
cannot be made: white space in front of a directive moves a cut into a character. -/
theorem exitStatus_severed :
    (run .detached (dryRunWith " é=info") (world configuredFiles [] [] ())).2.isOk = true ∧
      logFilter (dryRunWith " é=info") [] = none ∧
      exitStatus (outcome .detached (dryRunWith " é=info") [] (world configuredFiles [] [] ())) =
        101 := by
  decide +kernel

end CommandLine

end ImageBuild
