import ImageBuild.Proofs.Builder.Halting

/-!
# Traces of runs

What a run asks for, section by section: the attempts at the steps of a section, and the requests
for its intermediate reference after them. `Traced` has one rule for each way in which a section can
end, and every run of a plan has a trace (`Builder.traced_of_runPlan`); whatever holds of the requests
of a run is proved on its trace.
-/

namespace ImageBuild

variable {σ : Type} {settings : Settings σ} {b : Builder} {w : World σ}

/-- What was done for a section whose files are staged. -/
structure SectionTrace (σ : Type) where
  plan : SectionPlan
  attempts : List (Attempt σ)
  /-- The requests for the intermediate reference. -/
  cleanup : List Event

/-- The requests for a section. -/
def SectionTrace.events (t : SectionTrace σ) : List Event :=
  t.attempts.flatMap (·.events) ++ t.cleanup

/-- The traces of the sections of a plan that were come to, and the result of its run. -/
inductive Traced (settings : Settings σ) :
    Plan → σ → List (SectionTrace σ) → σ → Except BuildError Unit → Prop
  | nil (s : σ) : Traced settings [] s [] s (.ok ())
  /-- There is no working directory, or the files are not staged. -/
  | unprepared {plan : SectionPlan} {rest : Plan} {e : BuildError} (s : σ)
      (he : e.isPreparation = true) : Traced settings (plan :: rest) s [] s (.error e)
  | failed {context : BuildDir} {plan : SectionPlan} {rest : Plan} {attempts : List (Attempt σ)}
      {s s' : σ} {e : BuildError}
      (hsteps : SectionRun settings context [] plan.steps s attempts s' (.error e)) :
      Traced settings (plan :: rest) s [⟨plan, attempts, []⟩] s' (.error e)
  | cons {context : BuildDir} {plan : SectionPlan} {rest : Plan} {attempts : List (Attempt σ)}
      {image : Option String} {cleanup : List Event} {traces : List (SectionTrace σ)}
      {s s₁ s₂ s₃ : σ} {result : Except BuildError Unit}
      (hsteps : SectionRun settings context [] plan.steps s attempts s₁ (.ok image))
      (hreclaim : Reclaim settings plan.uuid s₁ cleanup s₂)
      (hrest : Traced settings rest s₂ traces s₃ result) :
      Traced settings (plan :: rest) s (⟨plan, attempts, cleanup⟩ :: traces) s₃ result

/-- Every run of a plan has a trace, which tells all its requests. -/
theorem Builder.traced_of_runPlan (settings : Settings σ) (b : Builder) (w : World σ)
    (plans : Plan) :
    ∃ traces, Traced settings plans w.service traces (b.runPlan settings w plans).2.1.service
        (b.runPlan settings w plans).2.2 ∧
      (b.runPlan settings w plans).2.1.events = w.events ++ traces.flatMap (·.events) := by
  induction plans generalizing b w with
  | nil => exact ⟨[], .nil _, (List.append_nil _).symm⟩
  | cons plan rest ih =>
    have houtcome := sectionOutcome settings b plan w
    unfold runPlan
    generalize runSection settings b plan w = r at houtcome
    cases houtcome with
    | noWorkdir hclean =>
      have hquiet := quiet_of_clean hclean
      refine ⟨[], ?_, by simpa using hquiet.events⟩
      dsimp only
      rw [hquiet.service]
      exact .unprepared _ (isPreparation_of_clean (by rw [hclean]))
    | notStaged hclean hsetup =>
      have hquiet := (quiet_of_clean hclean).trans (quiet_of_setup hsetup)
      refine ⟨[], ?_, by simpa using hquiet.events⟩
      dsimp only
      rw [hquiet.service]
      exact .unprepared _ (isPreparation_of_setup (congrArg Prod.snd hsetup))
    | failed hprepared hsteps hmoved =>
      have hquiet := hprepared.quiet
      rw [hquiet.service] at hsteps
      dsimp only
      rw [hmoved.service, hmoved.events, hquiet.events]
      exact ⟨_, .failed hsteps, by simp [SectionTrace.events]⟩
    | done hprepared hsteps hreclaim hmoved =>
      rename_i b₁ w₁ w₂ w₃ place attempts image cleanup s s'
      have hquiet := hprepared.quiet
      have hrelease := quiet_release (b₁.bind plan) w₃
      rw [hquiet.service] at hsteps
      dsimp only
      obtain ⟨traces, htraced, hevents⟩ :=
        ih ((b₁.bind plan).release w₃).1 ((b₁.bind plan).release w₃).2
      rw [hrelease.service, hmoved.service] at htraced
      refine ⟨_, .cons hsteps hreclaim htraced, ?_⟩
      rw [hevents, hrelease.events, hmoved.events, hquiet.events]
      simp [SectionTrace.events, List.append_assoc]

/-- The sections that have a trace are the first ones of the plan, and a run that succeeds comes to
all of them. -/
theorem Traced.plans {plans : Plan} {traces : List (SectionTrace σ)} {s s' : σ}
    {result : Except BuildError Unit} (h : Traced settings plans s traces s' result) :
    traces.map (·.plan) <+: plans ∧ (result = .ok () → traces.map (·.plan) = plans) := by
  induction h with
  | nil => exact ⟨List.prefix_rfl, fun _ => rfl⟩
  | unprepared => exact ⟨List.nil_prefix, nofun⟩
  | failed => exact ⟨by simp, nofun⟩
  | cons hsteps hreclaim hrest ih =>
    obtain ⟨hpre, hall⟩ := ih
    refine ⟨by simpa using hpre, fun hok => ?_⟩
    rw [List.map_cons, hall hok]

/-- The attempts of a section were made in a run of its steps, and the requests after them are for
its intermediate reference. -/
theorem Traced.section {plans : Plan} {traces : List (SectionTrace σ)} {s s' : σ}
    {result : Except BuildError Unit} (h : Traced settings plans s traces s' result)
    {t : SectionTrace σ} (ht : t ∈ traces) :
    ∃ context s₀ s₁ outcome,
      SectionRun settings context [] t.plan.steps s₀ t.attempts s₁ outcome ∧
        (result = .ok () → ∃ image, outcome = .ok image) ∧
        (t.cleanup = [] ∨ ∃ s₂, Reclaim settings t.plan.uuid s₁ t.cleanup s₂) := by
  induction h with
  | nil => cases ht
  | unprepared => cases ht
  | failed hsteps =>
    obtain rfl := List.mem_singleton.1 ht
    exact ⟨_, _, _, _, hsteps, nofun, Or.inl rfl⟩
  | cons hsteps hreclaim hrest ih =>
    rcases List.mem_cons.1 ht with rfl | ht
    · exact ⟨_, _, _, _, hsteps, fun _ => ⟨_, rfl⟩, Or.inr ⟨_, hreclaim⟩⟩
    · exact ih ht

/-- The steps of the attempts are those of the section, as far as it came. -/
theorem SectionRun.steps_prefix {context : BuildDir} {earlier attempts : List (Attempt σ)}
    {steps : List ImageStep} {s s' : σ} {result : Except BuildError (Option String)}
    (h : SectionRun settings context earlier steps s attempts s' result) :
    attempts.map (·.step) <+: steps := by
  rcases h.ended with ⟨hsteps, -⟩ | ⟨-, -, left, -, -, hsteps, -⟩
  · exact hsteps ▸ List.prefix_rfl
  · exact hsteps ▸ List.prefix_append _ _

end ImageBuild
