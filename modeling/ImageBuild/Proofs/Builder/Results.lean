import ImageBuild.Proofs.Builder.Halting

/-!
# How a run of a configuration ends

The plan of a section begins with a build. That build gives an image, or it is skipped for want of a
backend, or it ends the run (`SectionRun.built_or_skipped`); so no tag after it can end the run for
want of an image. What is left are faults in the configuration, faults before the first step, and
requests that fail (`compileAndRun_surfaced`).
-/

namespace ImageBuild

variable {σ : Type} {settings : Settings σ} {context : BuildDir} {w : World σ}

/-- The errors that a run of a configuration can end with. -/
def BuildError.isFinal : BuildError → Bool
  | .config _ | .sandbox _ | .workdir _ | .staging _ | .versionControl _ _ => true
  | .backend operation _ => ["build", "tag", "push"].contains operation
  | .noSection | .notConfigured | .noImage _ => false

/-- How an error comes out of a run between two worlds: the configuration is not well-formed and
nothing is done, a section is not prepared, or the last request of the run fails with it. -/
inductive Surfaced (settings : Settings σ) (w w' : World σ) : BuildError → Prop
  | notWellFormed (fault : ConfigFault) (hsame : w' = w) :
      Surfaced settings w w' (.config (.notWellFormed fault))
  | unprepared {e : BuildError} (he : e.isPreparation = true) : Surfaced settings w w' e
  | request {e : BuildError} {step : ImageStep} {s : σ} {earlier : List Event} {event : Event}
      (hevents : w'.events = w.events ++ earlier ++ [event])
      (hfails : Fails settings step s event e) :
      Surfaced settings w w' e

theorem Fails.isFinal {step : ImageStep} {s : σ} {event : Event} {e : BuildError}
    (h : Fails settings step s event e) : e.isFinal = true := by
  cases h with
  | build => rfl
  | tag => rfl
  | push => rfl
  | query => rfl

theorem BuildError.isFinal_of_isPreparation {e : BuildError} (h : e.isPreparation = true) :
    e.isFinal = true := by
  cases e with
  | workdir | sandbox | staging => rfl
  | _ => cases h

theorem Surfaced.isFinal {w' : World σ} {e : BuildError} (h : Surfaced settings w w' e) :
    e.isFinal = true := by
  cases h with
  | notWellFormed => rfl
  | unprepared he => exact BuildError.isFinal_of_isPreparation he
  | request hevents hfails => exact hfails.isFinal

/-! ## The first build of a section -/

theorem lastBuilt_eq_none_iff {attempts : List (Attempt σ)} :
    lastBuilt attempts = none ↔ ∀ a ∈ attempts, a.built? = none := by
  unfold lastBuilt
  rw [List.getLast?_eq_none_iff, List.filterMap_eq_nil_iff]

/-- A build that does not end the run gives an image, or is skipped for want of a backend. -/
theorem StepRun.built_or_skipped {image : Option String} {reference : String} {s s' : σ}
    {events : List Event} {result : Except BuildError (Option String)}
    (h : StepRun settings context image (.build reference) s events s' result)
    (hresult : Tolerated ([] : List (Attempt σ)) result) :
    (Attempt.mk (.build reference) s events s' result).built? ≠ none ∨
      (Attempt.mk (.build reference) s events s' result).isSkipped = true := by
  cases h with
  | unattached => exact Or.inr rfl
  | built => exact Or.inl (by simp [Attempt.built?])
  | notBuilt hbackend hcall =>
    rename_i fault
    cases fault with
    | notConfigured => exact Or.inr rfl
    | failed frames => exact hresult.elim

/-- After the first step of a section that begins with a build, there is an image, or a step was
skipped for want of a backend. -/
theorem SectionRun.built_or_skipped {reference : String} {steps : List ImageStep} {s s' : σ}
    {attempts : List (Attempt σ)} {result : Except BuildError (Option String)}
    (h : SectionRun settings context [] (.build reference :: steps) s attempts s' result)
    {x a : Attempt σ} {xs ys : List (Attempt σ)} (ha : attempts = x :: xs ++ a :: ys) :
    lastBuilt (x :: xs) ≠ none ∨ (x :: xs).any (·.isSkipped) = true := by
  cases h with
  | stop => simp at ha
  | goOn hstep hresult hrest =>
    obtain rfl := (List.cons.inj ha).1
    rcases hstep.built_or_skipped hresult with hbuilt | hskipped
    · refine Or.inl fun hnone => hbuilt ?_
      exact lastBuilt_eq_none_iff.1 hnone _ List.mem_cons_self
    · exact Or.inr (by simp [hskipped])

/-- Where a section begins with a build, only requests that fail end the run of its steps. -/
theorem SectionRun.exists_fails {reference : String} {steps : List ImageStep} {s s' : σ}
    {attempts : List (Attempt σ)} {e : BuildError}
    (h : SectionRun settings context [] (.build reference :: steps) s attempts s' (.error e)) :
    ∃ step before event t, attempts.flatMap (·.events) = before ++ [event] ∧
      Fails settings step t event e := by
  rcases h.ended with ⟨-, hok⟩ | ⟨xs, a, left, e', hattempts, hsteps, ha, hnot, he⟩
  · cases hok
  · obtain rfl := Except.error.inj he
    obtain ⟨hstep, -, -⟩ := h.attempt hattempts
    rw [ha] at hstep hnot
    have hraised := Attempt.raised hstep (by rintro rfl; exact hnot trivial)
    cases hraised with
    | request hevents hfails =>
      rename_i before event t
      refine ⟨a.step, xs.flatMap (·.events) ++ before, event, t, ?_, hfails⟩
      rw [hattempts, List.flatMap_append, List.flatMap_singleton, hevents, List.append_assoc]
    | noImage htag himage =>
      cases xs with
      | nil =>
        -- the first step is no tag
        rw [hattempts, List.nil_append, List.map_singleton, htag] at hsteps
        cases (List.cons.inj hsteps).1
      | cons x xs =>
        rcases h.built_or_skipped hattempts with hbuilt | hskipped
        · exact absurd himage hbuilt
        · exact absurd hskipped hnot

/-! ## Plans of configurations -/

theorem Compiler.exists_of_mem_planSections {c : Compiler} {draw : Nat → String} {used : Nat}
    {sections : List Section} {plan : SectionPlan}
    (h : plan ∈ (c.planSections draw used sections).1) :
    ∃ s ∈ sections, ∃ uuid, plan = planSection c.skipPush uuid s := by
  induction sections generalizing used with
  | nil => cases h
  | cons s rest ih =>
    unfold planSections at h
    rcases List.mem_cons.1 h with rfl | h
    · exact ⟨s, List.mem_cons_self, _, rfl⟩
    · obtain ⟨s', hs, uuid, rfl⟩ := ih h
      exact ⟨s', List.mem_cons_of_mem s hs, uuid, rfl⟩

theorem Compiler.eq_planSections_of_compile {c : Compiler} {draw : Nat → String} {used used' : Nat}
    {config : Config} {plans : Plan} (h : c.compile draw used config = (.ok plans, used')) :
    config.validate = .ok () ∧ c.planSections draw used config.sections = (plans, used') := by
  unfold compile at h
  split at h
  · cases h
  · rename_i hv
    obtain ⟨hplans, hused⟩ := Prod.mk.inj h
    exact ⟨hv, Prod.ext (Except.ok.inj hplans) hused⟩

/-- A run of plans that begin with a build is halted before the steps of a section, or by a request
that fails. -/
theorem Halted.surfaced {b : Builder} {plans : Plan} {events : List Event} {e : BuildError}
    (h : Halted settings b w plans events e)
    (hplans : ∀ plan ∈ plans, ∃ reference steps, plan.steps = .build reference :: steps)
    {w' : World σ} (hevents : w'.events = w.events ++ events) : Surfaced settings w w' e := by
  cases h with
  | unprepared hsplit hbefore hdone hfails he => exact .unprepared he
  | atStep hsplit hbefore hdone hprepared hsteps hresult hraised =>
    rename_i plan _ _ _ _ _ _ _ _ _
    obtain ⟨reference, steps, hfirst⟩ := hplans plan (by simp [hsplit])
    rw [hfirst] at hsteps
    obtain ⟨step, earlier, event, t, hlast, hfails⟩ := hsteps.exists_fails
    rw [hlast, ← List.append_assoc, ← List.append_assoc] at hevents
    rw [List.append_assoc w.events] at hevents
    exact .request hevents hfails

/-- How an error comes out of the run of a configuration. -/
theorem compileAndRun_surfaced {draw : Nat → String} {used : Nat} {config : Config} {e : BuildError}
    (h : (compileAndRun settings draw used config w).2 = .error e) :
    Surfaced settings w (compileAndRun settings draw used config w).1 e := by
  unfold compileAndRun at h ⊢
  split at h
  · rename_i fault used' hcompile
    rw [← Except.error.inj h]
    exact .notWellFormed fault rfl
  · rename_i plans used' hcompile
    obtain ⟨events, hevents, hhalted⟩ := Builder.halted_of_runPlan h
    refine hhalted.surfaced ?_ ((Builder.quiet_close _ _).events.trans hevents)
    intro plan hplan
    obtain ⟨-, hsections⟩ := Compiler.eq_planSections_of_compile hcompile
    have hplans : _ = plans := congrArg Prod.fst hsections
    rw [← hplans] at hplan
    obtain ⟨s, -, uuid, rfl⟩ := Compiler.exists_of_mem_planSections hplan
    exact ⟨_, _, rfl⟩

end ImageBuild
