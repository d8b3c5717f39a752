import ImageBuild.Proofs.Builder.Filework
import ImageBuild.Proofs.Builder.FreshNames
import ImageBuild.Proofs.Builder.Isolation
import ImageBuild.Proofs.Builder.Reclaiming
import ImageBuild.Proofs.Builder.Results
import ImageBuild.Proofs.Builder.Traces

/-!
# Dry runs

Without a backend, a run prepares its sections and skips all their steps: it asks for nothing and
fails only where a section is not prepared. With a backend the same sections are prepared in the
same way, since staging looks at files only and requests change none, and also if the working
directories get other names that nothing comes to (`InStep.prepared`). So a dry run predicts the
real one, up to the requests of the latter that fail (`dryRun_predicts`).
-/

namespace ImageBuild

open World

variable {σ : Type} {settings dry : Settings σ} {context : BuildDir} {b b' : Builder}
  {w v : World σ}

/-- Errors that come from a request to the backend or to version control. -/
def BuildError.isService : BuildError → Bool
  | .backend _ _ | .versionControl _ _ => true
  | _ => false

theorem Fails.isService {step : ImageStep} {s : σ} {event : Event} {e : BuildError}
    (h : Fails settings step s event e) : e.isService = true := by
  cases h with
  | build => rfl
  | tag => rfl
  | push => rfl
  | query => rfl

/-! ## Without a backend -/

/-- Without a backend a step asks for nothing, and is skipped or succeeds. -/
theorem StepRun.of_unattached {image : Option String} {step : ImageStep} {s s' : σ}
    {events : List Event} {result : Except BuildError (Option String)}
    (h : StepRun dry context image step s events s' result) (hdry : dry.backend = none) :
    events = [] ∧ (result = .error .notConfigured ∨ ∃ image', result = .ok image') := by
  have hno : ∀ {backend : Backend σ}, dry.backend ≠ some backend := by
    intro backend hsome
    rw [hdry] at hsome
    cases hsome
  cases h with
  | unattached => exact ⟨rfl, Or.inl rfl⟩
  | pushSkipped => exact ⟨rfl, Or.inr ⟨_, rfl⟩⟩
  | built hbackend => exact absurd hbackend hno
  | notBuilt hbackend => exact absurd hbackend hno
  | noImage _ hbackend => exact absurd hbackend hno
  | tagUnresolved hbackend => exact absurd hbackend hno
  | tagged hbackend => exact absurd hbackend hno
  | notTagged hbackend => exact absurd hbackend hno
  | pushUnresolved _ hbackend => exact absurd hbackend hno
  | pushed _ hbackend => exact absurd hbackend hno
  | notPushed _ hbackend => exact absurd hbackend hno

/-- Without a backend, the steps of a section come to their end and nothing is asked for. -/
theorem SectionRun.of_unattached {earlier attempts : List (Attempt σ)} {steps : List ImageStep}
    {s s' : σ} {result : Except BuildError (Option String)}
    (h : SectionRun dry context earlier steps s attempts s' result) (hdry : dry.backend = none) :
    attempts.flatMap (·.events) = [] ∧ ∃ image, result = .ok image := by
  induction h with
  | done => exact ⟨rfl, _, rfl⟩
  | goOn hstep hresult hrest ih =>
    obtain ⟨hevents, hok⟩ := ih
    refine ⟨?_, hok⟩
    rw [List.flatMap_cons, (hstep.of_unattached hdry).1, hevents]
    rfl
  | stop hstep hresult =>
    rcases (hstep.of_unattached hdry).2 with hskipped | ⟨_, hok⟩
    · cases hskipped
      exact absurd trivial hresult
    · cases hok

theorem Reclaim.of_unattached {uuid : String} {s s' : σ} {cleanup : List Event}
    (h : Reclaim dry uuid s cleanup s') (hdry : dry.backend = none) : cleanup = [] := by
  cases h with
  | unattached => rfl
  | nothing _ hbackend =>
    rw [hdry] at hbackend
    cases hbackend
  | removed _ hbackend =>
    rw [hdry] at hbackend
    cases hbackend

/-- A run without a backend asks for nothing, and fails only to prepare a section. -/
theorem Traced.of_unattached {plans : Plan} {traces : List (SectionTrace σ)} {s s' : σ}
    {result : Except BuildError Unit} (h : Traced dry plans s traces s' result)
    (hdry : dry.backend = none) :
    traces.flatMap (·.events) = [] ∧ ∀ e, result = .error e → e.isPreparation = true := by
  induction h with
  | nil => exact ⟨rfl, nofun⟩
  | unprepared s he =>
    refine ⟨rfl, ?_⟩
    rintro _ ⟨⟩
    exact he
  | failed hsteps =>
    obtain ⟨-, _, hok⟩ := hsteps.of_unattached hdry
    cases hok
  | cons hsteps hreclaim hrest ih =>
    refine ⟨?_, ih.2⟩
    rw [List.flatMap_cons, ih.1, SectionTrace.events, (hsteps.of_unattached hdry).1,
      hreclaim.of_unattached hdry]
    rfl

/-! ## Preparing sections -/

/-- Two builders prepare sections of some dockerfiles in the same way: they hold the same in worlds
with the same files, or the names of their working directories are interchangeable. -/
inductive InStep (settings : Settings σ) (dockerfiles : List String) :
    Builder → World σ → Builder → World σ → Prop
  | same {b b' : Builder} {w v : World σ} (hb : b.workdir = b'.workdir) (h : w.SameFiles v) :
      InStep settings dockerfiles b w b' v
  | renamed {b b' : Builder} {w v : World σ} (hb : b.workdir = none) (hb' : b'.workdir = none)
      (h : Interchangeable settings dockerfiles w v) : InStep settings dockerfiles b w b' v

/-- How two builders prepare a section: both fail to, in the same way, or both succeed, and they are
in step again when they have given up the working directory. -/
inductive PreparedInStep (settings dry : Settings σ) (dockerfiles : List String) (b : Builder)
    (plan : SectionPlan) (w : World σ) (b' : Builder) (plan' : SectionPlan) (v : World σ) : Prop
  | unprepared {e : BuildError} (he : e.isPreparation = true)
      (hreal : (b.runSection settings plan w).2.2 = .error e)
      (hdry : (b'.runSection dry plan' v).2.2 = .error e)
  | prepared {b₁ b₁' : Builder} {w₁ w₂ v₁ v₂ : World σ} {place place' : Place}
      (hreal : Prepared settings b plan w b₁ w₁ place w₂)
      (hdry : Prepared dry b' plan' v b₁' v₁ place' v₂)
      (hafter : ∀ w₃ v₃, w₂.SameFiles w₃ → v₂.SameFiles v₃ →
        InStep settings dockerfiles ((b₁.bind plan).release w₃).1 ((b₁.bind plan).release w₃).2
          ((b₁'.bind plan').release v₃).1 ((b₁'.bind plan').release v₃).2)

namespace Builder

variable {plan plan' : SectionPlan} {b₁ : Builder} {w₁ w₂ : World σ} {e : BuildError}
  {dockerfiles : List String}

theorem runSection_of_clean_error (hclean : b.clean w = (b₁, w₁, .error e)) :
    (b.runSection settings plan w).2.2 = .error e := by
  unfold runSection
  rw [hclean]

theorem runSection_of_setup_error (hclean : b.clean w = (b₁, w₁, .ok ()))
    (hsetup : (setup settings (b₁.bind plan) w₁).2 = .error e) :
    (b.runSection settings plan w).2.2 = .error e := by
  unfold runSection
  rw [hclean]
  dsimp only
  rcases hs : setup settings (b₁.bind plan) w₁ with ⟨w₂, result⟩
  rw [hs] at hsetup
  obtain rfl : result = .error e := hsetup
  rfl

theorem preparedInStep_of_sameFiles (hcontext : settings.context = dry.context)
    (hdockerfile : plan.dockerfile = plan'.dockerfile) (hb : b.workdir = b'.workdir)
    (h : w.SameFiles v) : PreparedInStep settings dry dockerfiles b plan w b' plan' v := by
  obtain ⟨b₁, b₁', w₁, v₁, made, hw, hv, hworkdir, h₁⟩ :=
    (clean_alike keptByWork_sameFiles hb h).exists
  cases made with
  | error e =>
    exact .unprepared (isPreparation_of_clean (by rw [hw])) (runSection_of_clean_error hw)
      (runSection_of_clean_error hv)
  | ok _ =>
    obtain ⟨place, hplace, -⟩ := allocate_of_clean hw
    have hplace' : b₁'.workdir = some place := hworkdir ▸ hplace
    have hsetup : SameResult SameFiles (setup settings (b₁.bind plan) w₁)
        (setup dry (b₁'.bind plan') v₁) :=
      setup_alike keptByWork_sameFiles hcontext hworkdir hdockerfile h₁
    obtain ⟨w₂, v₂, staged, hw₂, hv₂, h₂⟩ := hsetup.exists
    cases staged with
    | error e =>
      have hsetup := congrArg Prod.snd hw₂
      exact .unprepared (isPreparation_of_setup hsetup) (runSection_of_setup_error hw hsetup)
        (runSection_of_setup_error hv (congrArg Prod.snd hv₂))
    | ok _ =>
      refine .prepared ⟨hw, hplace, hw₂⟩ ⟨hv, hplace', hv₂⟩ fun w₃ v₃ hw₃ hv₃ => ?_
      refine .same ((workdir_release ..).trans (workdir_release ..).symm) ?_
      exact release_alike keptByWork_sameFiles hworkdir ((hw₃.symm.trans h₂).trans hv₃)

theorem preparedInStep_of_interchangeable (hcontext : settings.context = dry.context)
    (hdockerfile : plan.dockerfile = plan'.dockerfile) (hb : b.workdir = none)
    (hb' : b'.workdir = none)
    (h : Interchangeable settings (plan.dockerfile :: dockerfiles) w v) :
    PreparedInStep settings dry dockerfiles b plan w b' plan' v := by
  rcases h.clean_cases hb hb' with ⟨e, hw, hv⟩ |
    ⟨b₁, w₁, place, b₁', v₁, place', hw, hplace, hv, hplace', hlengths⟩
  · exact .unprepared (isPreparation_of_clean (by rw [hw])) (runSection_of_clean_error hw)
      (runSection_of_clean_error hv)
  · have hsetup :=
      h.setup_result hcontext hdockerfile hb hb' hw hplace hv hplace' hlengths
    rcases hw₂ : setup settings (b₁.bind plan) w₁ with ⟨w₂, e | _⟩
    · rw [hw₂] at hsetup
      have hsetup' := congrArg Prod.snd hw₂
      exact .unprepared (isPreparation_of_setup hsetup') (runSection_of_setup_error hw hsetup')
        (runSection_of_setup_error hv hsetup.symm)
    · rw [hw₂] at hsetup
      have hprepared : Prepared settings b plan w b₁ w₁ place w₂ := ⟨hw, hplace, hw₂⟩
      have hprepared' : Prepared dry b' plan' v b₁' v₁ place'
          (setup dry (b₁'.bind plan') v₁).1 := ⟨hv, hplace', Prod.ext rfl hsetup.symm⟩
      refine .prepared hprepared hprepared' fun w₃ v₃ hw₃ hv₃ => ?_
      refine .renamed (workdir_release ..) (workdir_release ..) (h.next ?_ ?_)
      · exact hprepared.oneNameOn h.wellFormed h.unnamed_left hb hw₃
      · exact hprepared'.oneNameOn (h.files ▸ h.wellFormed) h.unnamed_right hb' hv₃

end Builder

theorem InStep.prepared {plan plan' : SectionPlan} {dockerfiles : List String}
    (h : InStep settings (plan.dockerfile :: dockerfiles) b w b' v)
    (hcontext : settings.context = dry.context) (hdockerfile : plan.dockerfile = plan'.dockerfile) :
    PreparedInStep settings dry dockerfiles b plan w b' plan' v := by
  cases h with
  | same hb h => exact Builder.preparedInStep_of_sameFiles hcontext hdockerfile hb h
  | renamed hb hb' h => exact Builder.preparedInStep_of_interchangeable hcontext hdockerfile hb hb' h

/-! ## Sections -/

/-- What a section comes to in a real run and in a dry run. -/
inductive Predicted (settings : Settings σ) (dockerfiles : List String) :
    Builder × World σ × Except BuildError Unit →
    Builder × World σ × Except BuildError Unit → Prop
  /-- The section is not prepared, for the same reason in both. -/
  | unprepared {b b' : Builder} {w v : World σ} {e : BuildError} (he : e.isPreparation = true) :
      Predicted settings dockerfiles (b, w, .error e) (b', v, .error e)
  /-- A request of the real run fails. -/
  | failed {b b' : Builder} {w v : World σ} {e : BuildError} (he : e.isService = true) :
      Predicted settings dockerfiles (b, w, .error e) (b', v, .ok ())
  | done {b b' : Builder} {w v : World σ} (h : InStep settings dockerfiles b w b' v) :
      Predicted settings dockerfiles (b, w, .ok ()) (b', v, .ok ())

namespace Builder

/-- A section that begins with a build, in a real run and in a dry run on builders in step. -/
theorem runSection_predicted (hdry : dry.backend = none) (hcontext : settings.context = dry.context)
    {plan plan' : SectionPlan} (hdockerfile : plan.dockerfile = plan'.dockerfile)
    {reference : String} {steps : List ImageStep} (hsteps : plan.steps = .build reference :: steps)
    {dockerfiles : List String} (h : InStep settings (plan.dockerfile :: dockerfiles) b w b' v) :
    Predicted settings dockerfiles (runSection settings b plan w) (runSection dry b' plan' v) := by
  cases h.prepared hcontext hdockerfile with
  | unprepared he hreal hfails =>
    rcases hr : runSection settings b plan w with ⟨b₁, w₁, result⟩
    rcases hr' : runSection dry b' plan' v with ⟨b₁', v₁, result'⟩
    rw [hr] at hreal
    rw [hr'] at hfails
    obtain rfl : result = _ := hreal
    obtain rfl : result' = _ := hfails
    exact .unprepared he
  | prepared hreal hdried hafter =>
    rename_i b₁ b₁' w₁ w₂ v₁ v₂ place place'
    -- the steps of the dry run are skipped, so what is left to be seen are those of the real run
    obtain ⟨w₃, image, attempts, s, hw₃, hrun, hmoved⟩ := sectionRun_of_runSteps settings
      (b := b₁.bind plan) hreal.workdir plan (w₂.log [sectionRecord plan])
    obtain ⟨v₃, image', attempts', s', hv₃, hrun', hmoved'⟩ := sectionRun_of_runSteps dry
      (b := b₁'.bind plan') hdried.workdir plan' (v₂.log [sectionRecord plan'])
    obtain ⟨-, id, rfl⟩ := hrun'.of_unattached hdry
    unfold runSection
    rw [hreal.clean, hdried.clean]
    dsimp only
    rw [hreal.setup, hdried.setup]
    dsimp only
    rw [hw₃, hv₃]
    cases image with
    | error e =>
      rw [hsteps] at hrun
      obtain ⟨step, _, event, t, -, hfails⟩ := hrun.exists_fails
      exact .failed hfails.isService
    | ok image =>
      exact .done (hafter _ _ (hmoved.of_log.sameFiles.trans (sameFiles_reclaim ..))
        (hmoved'.of_log.sameFiles.trans (sameFiles_reclaim ..)))

end Builder

/-! ## Plans -/

/-- A run of a plan fails in the section at a position, after those before it were run to their
end. -/
inductive FailsAt (settings : Settings σ) (b : Builder) (w : World σ) (plans : Plan) (k : Nat)
    (e : BuildError) : Prop
  | intro {plan : SectionPlan} {b₁ : Builder} {w₁ : World σ} (hplan : plans[k]? = some plan)
      (hbefore : b.runPlan settings w (plans.take k) = (b₁, w₁, .ok ()))
      (hfails : (b₁.runSection settings plan w₁).2.2 = .error e)

/-- Two plans are for the same dockerfiles, and the sections of the first one begin with a build. -/
def SameFilework (plan plan' : SectionPlan) : Prop :=
  plan.dockerfile = plan'.dockerfile ∧ ∃ reference steps, plan.steps = .build reference :: steps

namespace FailsAt

variable {plan : SectionPlan} {plans rest : Plan} {k : Nat} {e : BuildError}

theorem zero (h : (b.runSection settings plan w).2.2 = .error e) :
    FailsAt settings b w (plan :: rest) 0 e :=
  .intro rfl rfl h

theorem succ {b₁ : Builder} {w₁ : World σ} (hsection : b.runSection settings plan w = (b₁, w₁, .ok ()))
    (h : FailsAt settings b₁ w₁ rest k e) : FailsAt settings b w (plan :: rest) (k + 1) e := by
  cases h with
  | intro hplan hbefore hfails =>
    refine .intro (by simpa using hplan) ?_ hfails
    rw [List.take_succ_cons, Builder.runPlan, hsection]
    exact hbefore

theorem cons_cases (h : FailsAt settings b w (plan :: rest) k e) :
    (k = 0 ∧ (b.runSection settings plan w).2.2 = .error e) ∨
      ∃ k' b₁ w₁, k = k' + 1 ∧ b.runSection settings plan w = (b₁, w₁, .ok ()) ∧
        FailsAt settings b₁ w₁ rest k' e := by
  cases h with
  | intro hplan hbefore hfails =>
    cases k with
    | zero =>
      obtain ⟨rfl, hw⟩ := Prod.mk.inj hbefore
      obtain ⟨rfl, -⟩ := Prod.mk.inj hw
      obtain rfl := Option.some.inj hplan
      exact Or.inl ⟨rfl, hfails⟩
    | succ k =>
      rw [List.take_succ_cons, Builder.runPlan] at hbefore
      split at hbefore
      · cases hbefore
      · rename_i b₁ w₁ hsection
        exact Or.inr ⟨k, b₁, w₁, rfl, hsection, .intro (by simpa using hplan) hbefore hfails⟩

theorem of_runPlan (h : (b.runPlan settings w plans).2.2 = .error e) :
    ∃ k, FailsAt settings b w plans k e := by
  rcases hrun : b.runPlan settings w plans with ⟨b', w', result⟩
  rw [hrun] at h
  obtain rfl : result = .error e := h
  obtain ⟨before, plan, after, b₁, w₁, rfl, hbefore, hsection⟩ := Builder.exists_of_runPlan_error hrun
  refine ⟨before.length, .intro (by simp) ?_ (congrArg (·.2.2) hsection)⟩
  rwa [List.take_left]

theorem runPlan (h : FailsAt settings b w plans k e) : (b.runPlan settings w plans).2.2 = .error e := by
  cases h with
  | intro hplan hbefore hfails =>
    rename_i plan b₁ w₁
    obtain ⟨hk, rfl⟩ := List.getElem?_eq_some_iff.1 hplan
    have hsplit : plans = plans.take k ++ plans[k] :: plans.drop (k + 1) := by simp
    rw [hsplit, Builder.runPlan_append _ hbefore, Builder.runPlan]
    rcases hsection : b₁.runSection settings plans[k] w₁ with ⟨b₂, w₂, result⟩
    rw [hsection] at hfails
    obtain rfl : result = .error e := hfails
    rfl

end FailsAt

namespace Builder

variable {plans plans' : Plan}

/-- If a dry run succeeds, only a request can make the real run fail. -/
theorem ok_or_service (hdry : dry.backend = none) (hcontext : settings.context = dry.context)
    (hplans : List.Forall₂ SameFilework plans plans')
    (h : InStep settings (plans.map (·.dockerfile)) b w b' v)
    (hok : (b'.runPlan dry v plans').2.2 = .ok ()) :
    (b.runPlan settings w plans).2.2 = .ok () ∨
      ∃ e, (b.runPlan settings w plans).2.2 = .error e ∧ e.isService = true := by
  induction hplans generalizing b b' w v with
  | nil => exact Or.inl rfl
  | cons hplan hrest ih =>
    obtain ⟨hdockerfile, reference, steps, hsteps⟩ := hplan
    have hpredicted := runSection_predicted hdry hcontext hdockerfile hsteps h
    unfold runPlan at hok ⊢
    generalize runSection settings b _ w = r, runSection dry b' _ v = r' at hpredicted hok
    cases hpredicted with
    | unprepared => cases hok
    | failed he => exact Or.inr ⟨_, rfl, he⟩
    | done h => exact ih h hok

/-- Where a dry run fails, the real run fails in the same way, or it failed before at a request. -/
theorem failsAt_of_dry (hdry : dry.backend = none) (hcontext : settings.context = dry.context)
    (hplans : List.Forall₂ SameFilework plans plans')
    (h : InStep settings (plans.map (·.dockerfile)) b w b' v) {k : Nat} {e : BuildError}
    (hfails : FailsAt dry b' v plans' k e) :
    FailsAt settings b w plans k e ∨
      ∃ j < k, ∃ e', FailsAt settings b w plans j e' ∧ e'.isService = true := by
  induction hplans generalizing b b' w v k with
  | nil =>
    cases hfails with
    | intro hplan => cases hplan
  | cons hplan hrest ih =>
    rename_i plan plan' rest rest'
    obtain ⟨hdockerfile, reference, steps, hsteps⟩ := hplan
    have hpredicted := runSection_predicted hdry hcontext hdockerfile hsteps h
    rcases hreal : runSection settings b plan w with ⟨b₁, w₁, result⟩
    rw [hreal] at hpredicted
    rcases hfails.cons_cases with ⟨rfl, hhere⟩ | ⟨k, b₁', v₁, rfl, hsection, hlater⟩
    · rcases hdried : runSection dry b' plan' v with ⟨b₁', v₁, result'⟩
      rw [hdried] at hpredicted hhere
      cases hpredicted with
      | unprepared he =>
        obtain rfl := Except.error.inj hhere
        exact Or.inl (.zero (congrArg (·.2.2) hreal))
      | failed => cases hhere
      | done => cases hhere
    · rw [hsection] at hpredicted
      cases hpredicted with
      | failed he => exact Or.inr ⟨0, by omega, _, .zero (congrArg (·.2.2) hreal), he⟩
      | done h =>
        rcases ih h hlater with hsame | ⟨j, hj, e', hearlier, he'⟩
        · exact Or.inl (hsame.succ hreal)
        · exact Or.inr ⟨j + 1, by omega, e', hearlier.succ hreal, he'⟩

end Builder

/-! ## Configurations -/

theorem Compiler.sameFilework_planSections (c c' : Compiler) (draw draw' : Nat → String)
    (used used' : Nat) (sections : List Section) :
    List.Forall₂ SameFilework (c.planSections draw used sections).1
      (c'.planSections draw' used' sections).1 := by
  induction sections generalizing used used' with
  | nil => exact .nil
  | cons s rest ih =>
    rw [planSections_cons, planSections_cons]
    exact .cons ⟨rfl, _, _, rfl⟩ (ih _ _)

theorem Compiler.dockerfiles_planSections (c : Compiler) (draw : Nat → String) (used : Nat)
    (sections : List Section) :
    (c.planSections draw used sections).1.map (·.dockerfile) = sections.map (·.dockerfile) := by
  induction sections generalizing used with
  | nil => rfl
  | cons s rest ih =>
    rw [planSections_cons, List.map_cons, ih]
    rfl

/-- The run of a configuration fails in the section at a position. -/
def FailsInSection (settings : Settings σ) (draw : Nat → String) (used : Nat) (config : Config)
    (w : World σ) (k : Nat) (e : BuildError) : Prop :=
  ∃ plans, ((Compiler.mk .random settings.skipPush).compile draw used config).1 = .ok plans ∧
    FailsAt settings .new w plans k e

/-- How the real run of a configuration ends, if a dry run of it ends with an error. -/
inductive Foretold (settings dry : Settings σ) (draw draw' : Nat → String) (used used' : Nat)
    (config : Config) (w v : World σ) (real : Except BuildError Unit) : BuildError → Prop
  /-- The configuration is not well-formed, and both runs say so. -/
  | notWellFormed {fault : ConfigFault} (hvalidate : config.validate = .error fault)
      (hreal : real = .error (.config (.notWellFormed fault))) :
      Foretold settings dry draw draw' used used' config w v real (.config (.notWellFormed fault))
  /-- Both runs fail to prepare the same section, in the same way. -/
  | same {k : Nat} {e : BuildError} (he : e.isPreparation = true)
      (hdry : FailsInSection dry draw' used' config v k e)
      (hsame : FailsInSection settings draw used config w k e) (hreal : real = .error e) :
      Foretold settings dry draw draw' used used' config w v real e
  /-- A request of the real run fails in a section before. -/
  | earlier {j k : Nat} {e e' : BuildError} (he : e.isPreparation = true)
      (hdry : FailsInSection dry draw' used' config v k e) (hj : j < k)
      (hearlier : FailsInSection settings draw used config w j e') (he' : e'.isService = true)
      (hreal : real = .error e') :
      Foretold settings dry draw draw' used used' config w v real e

/-- A dry run predicts a real run that begins with the same files, be it with the same names for its
working directories or with interchangeable ones, whatever the backend and version control of the
real run do: its result is that of the real run, unless a request of the real run fails, and then
before the section that the dry run failed to prepare. The dry run itself asks for nothing. -/
theorem dryRun_predicts (settings dry : Settings σ) (hdry : dry.backend = none)
    (hcontext : settings.context = dry.context) (draw draw' : Nat → String) (used used' : Nat)
    (config : Config) (w v : World σ)
    (h : w.SameFiles v ∨ Interchangeable settings (config.sections.map (·.dockerfile)) w v) :
    let real := (compileAndRun settings draw used config w).2
    let dried := compileAndRun dry draw' used' config v
    (dried.2 = .ok () → real = .ok () ∨ ∃ e, real = .error e ∧ e.isService = true) ∧
      (∀ e, dried.2 = .error e →
        Foretold settings dry draw draw' used used' config w v real e) ∧
      dried.1.events = v.events := by
  intro real dried
  cases hvalid : config.validate with
  | error fault =>
    have hreal : real = .error (.config (.notWellFormed fault)) := by
      simp [real, compileAndRun, Compiler.compile, hvalid]
    have hdried : dried = (v, .error (.config (.notWellFormed fault))) := by
      simp [dried, compileAndRun, Compiler.compile, hvalid]
    rw [hdried]
    refine ⟨nofun, ?_, rfl⟩
    rintro _ ⟨⟩
    exact .notWellFormed hvalid hreal
  | ok _ =>
    let c : Compiler := ⟨.random, settings.skipPush⟩
    let c' : Compiler := ⟨.random, dry.skipPush⟩
    let plans := (c.planSections draw used config.sections).1
    let plans' := (c'.planSections draw' used' config.sections).1
    have hcompile : (c.compile draw used config).1 = .ok plans := by
      simp [Compiler.compile, hvalid, plans]
    have hcompile' : (c'.compile draw' used' config).1 = .ok plans' := by
      simp [Compiler.compile, hvalid, plans']
    have hreal : real = (Builder.new.runPlan settings w plans).2.2 := by
      simp [real, compileAndRun, Compiler.compile, hvalid, plans, c]
    have hdried : dried = ((Builder.new.runPlan dry v plans').1.close
        (Builder.new.runPlan dry v plans').2.1, (Builder.new.runPlan dry v plans').2.2) := by
      simp [dried, compileAndRun, Compiler.compile, hvalid, plans', c']
    have hplans : List.Forall₂ SameFilework plans plans' :=
      Compiler.sameFilework_planSections c c' draw draw' used used' config.sections
    have hstart : InStep settings (plans.map (·.dockerfile)) .new w .new v := by
      rw [Compiler.dockerfiles_planSections]
      exact h.elim (.same rfl) (.renamed rfl rfl)
    obtain ⟨traces, htraced, hevents⟩ := Builder.traced_of_runPlan dry .new v plans'
    obtain ⟨hnothing, hpreparation⟩ := htraced.of_unattached hdry
    rw [hreal, hdried]
    refine ⟨Builder.ok_or_service hdry hcontext hplans hstart, fun e he => ?_, ?_⟩
    · obtain ⟨k, hfails⟩ := FailsAt.of_runPlan he
      rcases Builder.failsAt_of_dry hdry hcontext hplans hstart hfails with hsame |
        ⟨j, hj, e', hj', he'⟩
      · exact .same (hpreparation e he) ⟨plans', hcompile', hfails⟩ ⟨plans, hcompile, hsame⟩
          hsame.runPlan
      · exact .earlier (hpreparation e he) ⟨plans', hcompile', hfails⟩ hj ⟨plans, hcompile, hj'⟩ he'
          hj'.runPlan
    · rw [(Builder.quiet_close _ _).events, hevents, hnothing, List.append_nil]

/-- A backend that refuses to build. -/
def Backend.refusing : Backend Unit :=
  { Backend.obliging with build := fun _ _ _ => ⟨(), [], .error (.failed ["no space left"])⟩ }

/-- The settings of `Settings.obliging` with a backend that refuses to build. -/
def Settings.refusing : Settings Unit :=
  { Settings.obliging with backend := some .refusing }

/-- The same settings without a backend. -/
def Settings.dried (settings : Settings σ) : Settings σ :=
  { settings with backend := none }

/-- Two sections, the second of which has no dockerfile. -/
def Config.misplaced : Config := .ofSections [
  ⟨"a", "Dockerfile", "", "app", [.literal "v1"], false⟩,
  ⟨"b", "Dockerfile.missing", "", "app", [.branch], false⟩]

/-- Here the real run comes after the dry run, which used up two names of working directories. -/
theorem dryRun_predicts_refused : ∃ after e,
    compileAndRun Settings.refusing.dried uuidOfBits 0 .misplaced .linked = (after, .error e) ∧
      after.serial = World.linked.serial + 2 ∧ Settings.refusing.dried.backend.isNone = true ∧
      Interchangeable .refusing (Config.misplaced.sections.map (·.dockerfile)) after .linked ∧
      Foretold .refusing Settings.refusing.dried uuidOfBits uuidOfBits 2 0 .misplaced after .linked
        (compileAndRun .refusing uuidOfBits 2 .misplaced after).2 e := by
  have hstate :
      let after := (compileAndRun Settings.refusing.dried uuidOfBits 0 .misplaced .linked).1
      (after.files.nodes = World.linked.files.nodes ∧ after.cwd = [] ∧ after.temp = "/tmp" ∧
        after.serial = World.linked.serial + 2) ∧
      after.Fresh ("/ctx" :: Config.misplaced.sections.map (·.dockerfile)) 2 := by decide +kernel
  have hfails : (compileAndRun Settings.refusing.dried uuidOfBits 0 .misplaced .linked).2.isOk =
      false := by decide +kernel
  rcases hrun : compileAndRun Settings.refusing.dried uuidOfBits 0 .misplaced .linked with
    ⟨after, e | _⟩
  · rw [hrun] at hstate
    obtain ⟨⟨hnodes, hcwd, htemp, hserial⟩, hfresh⟩ := hstate
    have hfiles : World.linked.files = after.files := congrArg FileSystem.mk hnodes.symm
    have houtside : after.TempOutside "/ctx" := by
      unfold World.TempOutside
      rw [← hfiles, hcwd, htemp]
      intro root dir hroot hdir
      have hctx : World.linked.files.canonical [] "/ctx" = .ok ["ctx"] := by decide +kernel
      have htmp : World.linked.files.resolve [] "/tmp" = .ok ["tmp"] := by decide +kernel
      obtain rfl := Except.ok.inj (hctx.symm.trans hroot)
      obtain rfl := Except.ok.inj (htmp.symm.trans hdir)
      decide
    have hwell : after.files.WellFormed := by
      rw [← hfiles]
      decide +kernel
    have hnames : Interchangeable .refusing (Config.misplaced.sections.map (·.dockerfile)) after
        .linked :=
      ⟨hwell, hfiles, hcwd.symm, htemp.symm, houtside, hfresh, by decide +kernel⟩
    obtain ⟨-, hforetold, -⟩ := dryRun_predicts .refusing Settings.refusing.dried rfl rfl uuidOfBits
      uuidOfBits 2 0 .misplaced after .linked (.inr hnames)
    rw [hrun] at hforetold
    exact ⟨after, e, rfl, hserial, rfl, hnames, hforetold e rfl⟩
  · rw [hrun] at hfails
    cases hfails

end ImageBuild
