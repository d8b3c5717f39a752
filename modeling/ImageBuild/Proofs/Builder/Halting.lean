import ImageBuild.Proofs.Builder.Sections

/-!
# The first error of a run

The first error that is not tolerated ends a run. `Halted` says what was asked of the services by
then: everything for the sections before, then the requests of the section at hand up to the one
that failed, and nothing after it (`runPlan_halted`). The error comes from there, unchanged.
-/

namespace ImageBuild

variable {σ : Type} {settings : Settings σ} {context : BuildDir} {b : Builder} {w : World σ}

/-- Errors that are raised before the steps of a section are run. -/
def BuildError.isPreparation : BuildError → Bool
  | .workdir _ | .sandbox _ | .staging _ => true
  | _ => false

/-- A request of a step that fails, and the error that it gives: it names the operation and has the
report of the backend, or it has the tag spec and the report of version control. -/
inductive Fails (settings : Settings σ) : ImageStep → σ → Event → BuildError → Prop
  | build {backend : Backend σ} {context : BuildDir} {reference : String} {s : σ} {frames : Frames}
      (hbackend : settings.backend = some backend)
      (hcall : (backend.build s context reference).result = .error (.failed frames)) :
      Fails settings (.build reference) s (.build context reference) (.backend "build" frames)
  | tag {backend : Backend σ} {id repository text : String} {spec : TagSpec} {s : σ}
      {frames : Frames} (hbackend : settings.backend = some backend)
      (hcall : (backend.tag s id repository text).result = .error (.failed frames)) :
      Fails settings (.tag repository spec) s (.tag id repository text) (.backend "tag" frames)
  | push {backend : Backend σ} {repository text : String} {spec : TagSpec} {s : σ}
      {frames : Frames} (hbackend : settings.backend = some backend)
      (hcall : (backend.push s repository text).result = .error (.failed frames)) :
      Fails settings (.push repository spec) s (.push repository text) (.backend "push" frames)
  | query {step : ImageStep} {repository : String} {spec : TagSpec} {query : Query} {s s' : σ}
      {frames : Frames} (hstep : step = .tag repository spec ∨ step = .push repository spec)
      (hquery : spec.query? = some query)
      (hanswer : settings.provider.answer s query settings.context = (s', .error frames)) :
      Fails settings step s (.query query settings.context) (.versionControl spec.text frames)

/-- How an attempt that is given an image raises an error: its last request fails, or it is a tag
without an image. -/
inductive Raised (settings : Settings σ) (image : Option String) (a : Attempt σ) :
    BuildError → Prop
  | request {before : List Event} {event : Event} {s : σ} {e : BuildError}
      (hevents : a.events = before ++ [event]) (hfails : Fails settings a.step s event e) :
      Raised settings image a e
  | noImage {repository : String} {spec : TagSpec} (hstep : a.step = .tag repository spec)
      (himage : image = none) (hevents : a.events = []) :
      Raised settings image a (.noImage a.step.message)

/-- How a run of a plan ends with an error: the requests that were made, and the error. -/
inductive Halted (settings : Settings σ) (b : Builder) (w : World σ) (plans : Plan) :
    List Event → BuildError → Prop
  /-- A section gets no working directory, or its files are not staged. -/
  | unprepared {before after : Plan} {plan : SectionPlan} {done : List Event} {b₁ : Builder}
      {w₁ : World σ} {e : BuildError} (hplans : plans = before ++ plan :: after)
      (hbefore : b.runPlan settings w before = (b₁, w₁, .ok ()))
      (hdone : PlanDone settings before w.service done w₁.service)
      (hfails : (b₁.clean w₁).2.2 = .error e ∨ ∃ b₂ w₂, b₁.clean w₁ = (b₂, w₂, .ok ()) ∧
        (Builder.setup settings (b₂.bind plan) w₂).2 = .error e)
      (he : e.isPreparation = true) : Halted settings b w plans done e
  /-- A step of a section fails. -/
  | atStep {before after : Plan} {plan : SectionPlan} {done : List Event} {b₁ b₂ : Builder}
      {w₁ w₂ w₃ : World σ} {place : Place} {attempts : List (Attempt σ)} {a : Attempt σ}
      {e : BuildError} (hplans : plans = before ++ plan :: after)
      (hbefore : b.runPlan settings w before = (b₁, w₁, .ok ()))
      (hdone : PlanDone settings before w.service done w₁.service)
      (hprepared : Prepared settings b₁ plan w₁ b₂ w₂ place w₃)
      (hsteps : SectionRun settings ⟨w₃.files, w₃.cwd, place.text⟩ [] plan.steps w₁.service
        (attempts ++ [a]) a.after (.error e))
      (hresult : a.result = .error e) (hraised : Raised settings (lastBuilt attempts) a e) :
      Halted settings b w plans (done ++ (attempts ++ [a]).flatMap (·.events)) e

/-! ## The failing step -/

theorem TagSpec.Resolution.fails {step : ImageStep} {repository : String} {spec : TagSpec}
    {s s' : σ} {events : List Event} {e : BuildError}
    (h : spec.Resolution settings s events s' (.error e))
    (hstep : step = .tag repository spec ∨ step = .push repository spec) :
    ∃ event, events = [] ++ [event] ∧ Fails settings step s event e := by
  cases h with
  | unanswered hquery hanswer => exact ⟨_, rfl, .query hstep hquery hanswer⟩

/-- A step that fails does so at its last request, unless it is a tag without an image or has no
backend. -/
theorem Attempt.raised {a : Attempt σ} {image : Option String} {e : BuildError}
    (h : StepRun settings context image a.step a.before a.events a.after (.error e))
    (he : e ≠ .notConfigured) : Raised settings image a e := by
  obtain ⟨step, s, events, s', result⟩ := a
  dsimp only at h
  cases h with
  | unattached => exact absurd rfl he
  | notBuilt hbackend hcall =>
    rename_i fault
    cases fault with
    | notConfigured => exact absurd rfl he
    | failed frames => exact .request (List.nil_append _).symm (.build hbackend hcall)
  | noImage _ hbackend himage => exact .noImage rfl himage rfl
  | tagUnresolved hbackend himage hspec =>
    obtain ⟨event, hevents, hfails⟩ := hspec.fails (Or.inl rfl)
    exact .request hevents hfails
  | notTagged hbackend himage hspec hcall =>
    rename_i fault
    cases fault with
    | notConfigured => exact absurd rfl he
    | failed frames => exact .request rfl (.tag hbackend hcall)
  | pushUnresolved hskip hbackend hspec =>
    obtain ⟨event, hevents, hfails⟩ := hspec.fails (Or.inr rfl)
    exact .request hevents hfails
  | notPushed hskip hbackend hspec hcall =>
    rename_i fault
    cases fault with
    | notConfigured => exact absurd rfl he
    | failed frames => exact .request rfl (.push hbackend hcall)

/-- A run of steps that fails does so with its last attempt. -/
theorem SectionRun.exists_raised {steps : List ImageStep} {s s' : σ} {attempts : List (Attempt σ)}
    {e : BuildError} (h : SectionRun settings context [] steps s attempts s' (.error e)) :
    ∃ xs a, attempts = xs ++ [a] ∧ s' = a.after ∧ a.result = .error e ∧
      Raised settings (lastBuilt xs) a e := by
  rcases h.ended with ⟨-, hok⟩ | ⟨xs, a, left, e', rfl, -, ha, hnot, he⟩
  · cases hok
  · obtain rfl := Except.error.inj he
    obtain ⟨hstep, -, -⟩ := h.attempt rfl
    rw [ha] at hstep hnot
    refine ⟨xs, a, rfl, ?_, ha, Attempt.raised hstep ?_⟩
    · rw [h.after_eq]
      simp [stateAfter]
    · rintro rfl
      exact hnot trivial

/-! ## Runs -/

theorem Builder.isPreparation_of_clean {e : BuildError} (h : (b.clean w).2.2 = .error e) :
    e.isPreparation = true := by
  unfold clean at h
  dsimp only at h
  split at h
  · exact Except.error.inj h ▸ rfl
  · cases h

theorem Builder.isPreparation_of_setup {e : BuildError} {plan : SectionPlan}
    (h : (setup settings (b.bind plan) w).2 = .error e) : e.isPreparation = true := by
  unfold setup bind at h
  dsimp only at h
  split at h
  · exact Except.error.inj h ▸ rfl
  · split at h
    · exact Except.error.inj h ▸ rfl
    · split at h
      · exact Except.error.inj h ▸ rfl
      · cases h

/-- A run of a plan that fails is halted by its first error. -/
theorem Builder.halted_of_runPlan {plans : Plan} {e : BuildError}
    (h : (b.runPlan settings w plans).2.2 = .error e) :
    ∃ events, (b.runPlan settings w plans).2.1.events = w.events ++ events ∧
      Halted settings b w plans events e := by
  rcases hrun : b.runPlan settings w plans with ⟨b', w', result⟩
  rw [hrun] at h
  obtain rfl : result = .error e := h
  obtain ⟨before, plan, after, b₁, w₁, hplans, hbefore, hsection⟩ := exists_of_runPlan_error hrun
  obtain ⟨done, hdone, hevents⟩ := planDone_of_runPlan hbefore
  have houtcome := sectionOutcome settings b₁ plan w₁
  rw [hsection] at houtcome
  cases houtcome with
  | noWorkdir hclean =>
    have hfail : (b₁.clean w₁).2.2 = .error e := by rw [hclean]
    exact ⟨done, (quiet_of_clean hclean).events.trans hevents, .unprepared hplans hbefore hdone
      (Or.inl hfail) (isPreparation_of_clean hfail)⟩
  | notStaged hclean hsetup =>
    rename_i b₂ w₂
    have hquiet := (quiet_of_clean hclean).trans (quiet_of_setup hsetup)
    have hfail : (setup settings (b₂.bind plan) w₂).2 = .error e := by rw [hsetup]
    exact ⟨done, hquiet.events.trans hevents, .unprepared hplans hbefore hdone
      (Or.inr ⟨b₂, w₂, hclean, hfail⟩) (isPreparation_of_setup hfail)⟩
  | failed hprepared hsteps hmoved =>
    obtain ⟨xs, a, rfl, rfl, ha, hraised⟩ := hsteps.exists_raised
    have hquiet := hprepared.quiet
    rw [hquiet.service] at hsteps
    refine ⟨_, ?_, .atStep hplans hbefore hdone hprepared hsteps ha hraised⟩
    rw [hmoved.events, hquiet.events, hevents, List.append_assoc]

theorem Compiler.validate_of_compile_error {c : Compiler} {draw : Nat → String} {used used' : Nat}
    {config : Config} {fault : ConfigFault}
    (h : c.compile draw used config = (.error fault, used')) : config.validate = .error fault := by
  unfold compile at h
  split at h
  · rename_i hv
    obtain ⟨he, -⟩ := Prod.mk.inj h
    rw [hv, Except.error.inj he]
  · cases h

/-- The first error ends a run and comes out unchanged, for plans of any kind and for
configurations. -/
theorem runPlan_halted (settings : Settings σ) :
    (∀ (b : Builder) (w : World σ) (plans : Plan) (e : BuildError),
      (b.runPlan settings w plans).2.2 = .error e →
        ∃ events, (b.runPlan settings w plans).2.1.events = w.events ++ events ∧
          Halted settings b w plans events e) ∧
    ∀ (draw : Nat → String) (used : Nat) (config : Config) (w : World σ) (e : BuildError),
      (compileAndRun settings draw used config w).2 = .error e →
        (∃ fault, config.validate = .error fault ∧ e = .config (.notWellFormed fault) ∧
          (compileAndRun settings draw used config w).1 = w) ∨
        ∃ plans events,
          ((Compiler.mk .random settings.skipPush).compile draw used config).1 = .ok plans ∧
          (compileAndRun settings draw used config w).1.events = w.events ++ events ∧
          Halted settings .new w plans events e := by
  refine ⟨fun b w plans e h => Builder.halted_of_runPlan h, ?_⟩
  intro draw used config w e h
  unfold compileAndRun at h ⊢
  split at h
  · rename_i fault used' hcompile
    rw [hcompile]
    refine Or.inl ⟨fault, Compiler.validate_of_compile_error hcompile, ?_, rfl⟩
    exact (Except.error.inj h).symm
  · rename_i plans used' hcompile
    rw [hcompile]
    obtain ⟨events, hevents, hhalted⟩ := Builder.halted_of_runPlan h
    refine Or.inr ⟨plans, events, rfl, ?_, hhalted⟩
    exact (Builder.quiet_close _ _).events.trans hevents

end ImageBuild
