import ImageBuild.Builder.Run
import ImageBuild.Proofs.Plan.Attempts

/-!
# Images within a section

Tags go to the image that was built last in the same section. A step without a backend changes
nothing about that, and a tag without an image only ends the section if none was skipped for want of
a backend before it (`runSteps_threads`).
-/

namespace ImageBuild

variable {σ : Type}

/-- How images go through a run of some steps, which is a list of attempts that begins in a state of
the services. -/
structure Threads (settings : Settings σ) (context : BuildDir) (steps : List ImageStep) (s : σ)
    (attempts : List (Attempt σ)) (result : Except BuildError (Option String)) : Prop where
  /-- The steps are attempted in their order. -/
  attempted : attempts.map (·.step) <+: steps
  /-- Every attempt is given the image that was built last before it. -/
  ran : ∀ xs a ys, attempts = xs ++ a :: ys → a.before = stateAfter s xs ∧
    StepRun settings context (lastBuilt xs) a.step a.before a.events a.after a.result
  tagged : ∀ xs a ys, attempts = xs ++ a :: ys → ∀ id repository tag,
    Event.tag id repository tag ∈ a.events → lastBuilt xs = some id
  /-- Where there is no backend, the image is kept and the next step is attempted. -/
  skipped : ∀ xs a ys, attempts = xs ++ a :: ys → a.result = .error .notConfigured →
    lastBuilt (xs ++ [a]) = lastBuilt xs ∧
      (ys ≠ [] ∨ attempts.map (·.step) = steps ∧ result = .ok (lastBuilt attempts))
  /-- A tag without an image asks for nothing. It ends the run unless a step before it was skipped
  for want of a backend. -/
  imageless : ∀ xs a ys, attempts = xs ++ a :: ys → ∀ backend repository spec,
    settings.backend = some backend → a.step = .tag repository spec → lastBuilt xs = none →
      a.events = [] ∧ a.result = .error (.noImage a.step.message) ∧
        if xs.any (·.isSkipped) then
          lastBuilt (xs ++ [a]) = none ∧
            (ys ≠ [] ∨ attempts.map (·.step) = steps ∧ result = .ok (lastBuilt attempts))
        else ys = [] ∧ result = .error (.noImage a.step.message)
  ok : ∀ image, result = .ok image →
    attempts.map (·.step) = steps ∧ image = lastBuilt attempts

variable {settings : Settings σ} {context : BuildDir} {steps : List ImageStep} {s s' : σ}
  {attempts xs ys : List (Attempt σ)} {a : Attempt σ} {result : Except BuildError (Option String)}

/-- After an attempt that is tolerated comes the next one, if there is a step left. -/
theorem SectionRun.goes_on (h : SectionRun settings context [] steps s attempts s' result)
    (ha : attempts = xs ++ a :: ys) (ht : Tolerated xs a.result) :
    ys ≠ [] ∨ attempts.map (·.step) = steps ∧ result = .ok (lastBuilt attempts) := by
  rcases h.ended with hdone | ⟨xs', a', left, e, hlast, -, -, hnot, -⟩
  · exact Or.inr hdone
  · refine Or.inl ?_
    rintro rfl
    obtain ⟨rfl, h'⟩ := List.append_inj' (ha.symm.trans hlast) rfl
    exact hnot (List.cons.inj h' |>.1 ▸ ht)

theorem SectionRun.threads (h : SectionRun settings context [] steps s attempts s' result) :
    Threads settings context steps s attempts result := by
  refine ⟨?_, ?_, ?_, ?_, ?_, ?_⟩
  · rcases h.ended with ⟨hsteps, -⟩ | ⟨-, -, left, -, -, hsteps, -⟩
    · exact hsteps ▸ List.prefix_rfl
    · exact ⟨left, hsteps.symm⟩
  · intro xs a ys ha
    obtain ⟨hstep, hbefore, -⟩ := h.attempt ha
    exact ⟨hbefore, hstep⟩
  · intro xs a ys ha id repository tag he
    exact (h.attempt ha).1.image_eq_of_mem he
  · intro xs a ys ha hresult
    obtain ⟨step, before, events, after, result'⟩ := a
    obtain rfl : result' = .error .notConfigured := hresult
    exact ⟨lastBuilt_concat_error xs step before after events _, h.goes_on ha trivial⟩
  · intro xs a ys ha backend repository spec hbackend htag himage
    obtain ⟨step, before, events, after, result'⟩ := a
    obtain rfl : step = .tag repository spec := htag
    obtain ⟨hstep, -, hstop⟩ := h.attempt ha
    rw [List.nil_append] at hstep hstop
    rw [himage] at hstep
    obtain ⟨hevents, -, hresult⟩ := hstep.of_no_image hbackend
    dsimp only at hevents hresult hstop ⊢
    subst hevents hresult
    refine ⟨rfl, rfl, ?_⟩
    split
    · rename_i hskip
      exact ⟨(lastBuilt_concat_error xs _ _ _ _ _).trans himage, h.goes_on ha hskip⟩
    · rename_i hskip
      exact hstop hskip
  · intro image hresult
    rcases h.ended with ⟨hsteps, hfinal⟩ | ⟨-, -, -, e, -, -, -, -, hfinal⟩
    · rw [hresult, Except.ok.injEq] at hfinal
      exact ⟨hsteps, hfinal⟩
    · rw [hresult] at hfinal
      cases hfinal

/-- Running the steps of a section threads images through them. -/
theorem Builder.runSteps_threads (settings : Settings σ) (place : Place)
    (next : Option SectionPlan) (plan : SectionPlan) (w : World σ) :
    ∃ attempts : List (Attempt σ),
      (runSteps settings ⟨some place, next⟩ plan w).1.events =
          w.events ++ attempts.flatMap (·.events) ∧
        Threads settings ⟨w.files, w.cwd, place.text⟩ plan.steps w.service attempts
          (runSteps settings ⟨some place, next⟩ plan w).2 := by
  have hrun : ImageStep.runAll settings place.text (lastBuilt ([] : List (Attempt σ)))
      (([] : List (Attempt σ)).any (·.isSkipped)) plan.steps w =
      runSteps settings ⟨some place, next⟩ plan w := rfl
  obtain ⟨attempts, s, hsection, hmoved⟩ := ImageStep.sectionRun_of_runAll hrun
  exact ⟨attempts, hmoved.events, hsection.threads⟩

end ImageBuild
