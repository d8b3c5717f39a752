import ImageBuild.Proofs.Plan.Steps

/-!
# The steps of a section, one after the other

A run of some steps is a list of attempts. Each attempt is given the image of the last build before
it that succeeded (`lastBuilt`), and the run goes on as long as the attempts are tolerated: those
that succeed, those without a backend, and after one of these also those without an image.
`SectionRun` has the runs, and running steps is one of them (`sectionRun_of_runAll`).
-/

namespace ImageBuild

variable {σ : Type} {settings : Settings σ} {context : BuildDir} {w w' : World σ}

/-- A step that was attempted: the states of the services before and after it, its requests and its
result. -/
structure Attempt (σ : Type) where
  step : ImageStep
  before : σ
  events : List Event
  after : σ
  result : Except BuildError (Option String)

namespace Attempt

/-- Whether a step was skipped for want of a backend. -/
def isSkipped (a : Attempt σ) : Bool :=
  match a.result with
  | .error .notConfigured => true
  | _ => false

/-- The identifier of the image that a step built. -/
def built? (a : Attempt σ) : Option String :=
  match a.step, a.result with
  | .build _, .ok id => id
  | _, _ => none

end Attempt

/-- The identifier of the image that was built last. -/
def lastBuilt (attempts : List (Attempt σ)) : Option String :=
  (attempts.filterMap Attempt.built?).getLast?

theorem lastBuilt_concat (attempts : List (Attempt σ)) (a : Attempt σ) :
    lastBuilt (attempts ++ [a]) = a.built?.or (lastBuilt attempts) := by
  unfold lastBuilt
  rw [List.filterMap_append]
  rcases hb : a.built? with _ | id
  · simp [hb]
  · simp [hb]

/-- Whether a run goes on after an attempt with some result. -/
def Tolerated (earlier : List (Attempt σ)) : Except BuildError (Option String) → Prop
  | .ok _ => True
  | .error .notConfigured => True
  | .error (.noImage _) => earlier.any (·.isSkipped) = true
  | .error _ => False

/-- What running some steps after others does. -/
inductive SectionRun (settings : Settings σ) (context : BuildDir) :
    List (Attempt σ) → List ImageStep → σ → List (Attempt σ) → σ →
      Except BuildError (Option String) → Prop
  | done (earlier : List (Attempt σ)) (s : σ) :
      SectionRun settings context earlier [] s [] s (.ok (lastBuilt earlier))
  | goOn {earlier attempts : List (Attempt σ)} {step : ImageStep} {rest : List ImageStep}
      {s s' s'' : σ} {events : List Event} {result final : Except BuildError (Option String)}
      (hstep : StepRun settings context (lastBuilt earlier) step s events s' result)
      (hresult : Tolerated earlier result)
      (hrest : SectionRun settings context (earlier ++ [⟨step, s, events, s', result⟩]) rest s'
        attempts s'' final) :
      SectionRun settings context earlier (step :: rest) s
        (⟨step, s, events, s', result⟩ :: attempts) s'' final
  | stop {earlier : List (Attempt σ)} {step : ImageStep} {rest : List ImageStep}
      {s s' : σ} {events : List Event} {e : BuildError}
      (hstep : StepRun settings context (lastBuilt earlier) step s events s' (.error e))
      (hresult : ¬ Tolerated earlier (.error e)) :
      SectionRun settings context earlier (step :: rest) s [⟨step, s, events, s', .error e⟩] s'
        (.error e)

/-! ## Images -/

/-- Only a successful build changes the image. -/
theorem StepRun.eq_of_ok {image image' : Option String} {step : ImageStep} {s s' : σ}
    {events : List Event} (h : StepRun settings context image step s events s' (.ok image')) :
    image' = (Attempt.built? ⟨step, s, events, s', .ok image'⟩).or image := by
  cases h with
  | built => rfl
  | tagged hbackend himage => rw [himage]; rfl
  | pushSkipped => rfl
  | pushed => rfl

/-- The image after an attempt that succeeded. -/
theorem StepRun.eq_lastBuilt {earlier : List (Attempt σ)} {image : Option String}
    {step : ImageStep} {s s' : σ} {events : List Event}
    (h : StepRun settings context (lastBuilt earlier) step s events s' (.ok image)) :
    image = lastBuilt (earlier ++ [⟨step, s, events, s', .ok image⟩]) := by
  rw [lastBuilt_concat]
  exact h.eq_of_ok

theorem lastBuilt_concat_error (earlier : List (Attempt σ)) (step : ImageStep) (s s' : σ)
    (events : List Event) (e : BuildError) :
    lastBuilt (earlier ++ [⟨step, s, events, s', .error e⟩]) = lastBuilt earlier := by
  rw [lastBuilt_concat]
  cases step <;> rfl

/-! ## Positions of a run -/

/-- The state of the services after some attempts. -/
def stateAfter (s : σ) (attempts : List (Attempt σ)) : σ :=
  (attempts.getLast?.map (·.after)).getD s

theorem stateAfter_cons (s : σ) (a : Attempt σ) (attempts : List (Attempt σ)) :
    stateAfter s (a :: attempts) = stateAfter a.after attempts := by
  unfold stateAfter
  rw [List.getLast?_cons]
  rcases attempts.getLast? with _ | b <;> rfl

namespace SectionRun

variable {earlier attempts : List (Attempt σ)} {steps : List ImageStep} {s s' : σ}
  {result : Except BuildError (Option String)}

/-- Every attempt is given the image that was built last before it, and one that is not tolerated
ends the run with its error. -/
theorem attempt (h : SectionRun settings context earlier steps s attempts s' result)
    {xs ys : List (Attempt σ)} {a : Attempt σ} (ha : attempts = xs ++ a :: ys) :
    StepRun settings context (lastBuilt (earlier ++ xs)) a.step a.before a.events a.after a.result ∧
      a.before = stateAfter s xs ∧
      (¬ Tolerated (earlier ++ xs) a.result → ys = [] ∧ result = a.result) := by
  induction h generalizing xs with
  | done => simp at ha
  | goOn hstep hresult hrest ih =>
    cases xs with
    | nil =>
      obtain ⟨rfl, rfl⟩ := List.cons.inj ha
      rw [List.append_nil]
      exact ⟨hstep, rfl, fun hnot => absurd hresult hnot⟩
    | cons x xs =>
      obtain ⟨rfl, hxs⟩ := List.cons.inj ha
      have := ih hxs
      rw [stateAfter_cons]
      rwa [List.append_assoc, List.singleton_append] at this
  | stop hstep hresult =>
    cases xs with
    | nil =>
      obtain ⟨rfl, rfl⟩ := List.cons.inj ha
      rw [List.append_nil]
      exact ⟨hstep, rfl, fun _ => ⟨rfl, rfl⟩⟩
    | cons x xs => simp at ha

/-- A run ends when its steps are done, or with the first attempt that is not tolerated. -/
theorem ended (h : SectionRun settings context earlier steps s attempts s' result) :
    attempts.map (·.step) = steps ∧ result = .ok (lastBuilt (earlier ++ attempts)) ∨
      ∃ xs a left e, attempts = xs ++ [a] ∧ steps = attempts.map (·.step) ++ left ∧
        a.result = .error e ∧ ¬ Tolerated (earlier ++ xs) a.result ∧ result = .error e := by
  induction h with
  | done => exact Or.inl ⟨rfl, by rw [List.append_nil]⟩
  | goOn hstep hresult hrest ih =>
    rcases ih with ⟨hsteps, hfinal⟩ | ⟨xs, a, left, e, hattempts, hsteps, ha, hnot, hfinal⟩
    · refine Or.inl ⟨by rw [List.map_cons, hsteps], ?_⟩
      rw [hfinal, List.append_assoc, List.singleton_append]
    · refine Or.inr ⟨_ :: xs, a, left, e, by rw [hattempts]; rfl, ?_, ha, ?_, hfinal⟩
      · rw [List.map_cons, List.cons_append, hsteps]
      · rwa [List.append_assoc, List.singleton_append] at hnot
  | stop hstep hresult => exact Or.inr ⟨[], _, _, _, rfl, rfl, rfl, by simpa using hresult, rfl⟩

theorem after_eq (h : SectionRun settings context earlier steps s attempts s' result) :
    s' = stateAfter s attempts := by
  induction h with
  | done => rfl
  | goOn hstep hresult hrest ih => rw [stateAfter_cons, ih]
  | stop => rfl

end SectionRun

/-! ## Running steps -/

/-- Running steps is a run, up to the records that it leaves. -/
theorem ImageStep.sectionRun_of_runAll {dir : String} {steps : List ImageStep}
    {earlier : List (Attempt σ)} {result : Except BuildError (Option String)}
    (h : runAll settings dir (lastBuilt earlier) (earlier.any (·.isSkipped)) steps w =
      (w', result)) :
    ∃ attempts s, SectionRun settings ⟨w.files, w.cwd, dir⟩ earlier steps w.service attempts s
      result ∧ w.Moved (attempts.flatMap (·.events)) s w' := by
  induction steps generalizing earlier w with
  | nil =>
    obtain ⟨rfl, rfl⟩ := Prod.mk.inj h
    exact ⟨[], _, .done earlier _, .refl _⟩
  | cons step rest ih =>
    unfold runAll at h
    rcases hrun : run settings dir (lastBuilt earlier) step (w.log [step.startRecord]) with ⟨w₁, res⟩
    rw [hrun] at h
    obtain ⟨events, s, hstep, hmoved⟩ := stepRun_of_run hrun
    replace hstep : StepRun settings ⟨w.files, w.cwd, dir⟩ (lastBuilt earlier) step w.service events
      s res := hstep
    have hfirst : w.Moved events s w₁ := hmoved.of_log
    -- what is left to do after an attempt that is tolerated
    have next : ∀ w₂, w.Moved events s w₂ → Tolerated earlier res →
        runAll settings dir (lastBuilt (earlier ++ [Attempt.mk step w.service events s res]))
          ((earlier ++ [Attempt.mk step w.service events s res]).any (·.isSkipped)) rest w₂ =
          (w', result) →
        ∃ attempts s', SectionRun settings ⟨w.files, w.cwd, dir⟩ earlier (step :: rest) w.service
          attempts s' result ∧ w.Moved (attempts.flatMap (·.events)) s' w' := by
      intro w₂ hw₂ hres hrest
      obtain ⟨attempts, s', hsection, hend⟩ := ih hrest
      rw [hw₂.sameFiles.files, hw₂.sameFiles.cwd, hw₂.service] at hsection
      exact ⟨_, s', .goOn hstep hres hsection, by simpa using hw₂.trans hend⟩
    -- what the run comes to when the attempt is not tolerated
    have stop : ∀ e, res = .error e → ¬ Tolerated earlier (.error e) → (w₁, .error e) = (w', result) →
        ∃ attempts s', SectionRun settings ⟨w.files, w.cwd, dir⟩ earlier (step :: rest) w.service
          attempts s' result ∧ w.Moved (attempts.flatMap (·.events)) s' w' := by
      rintro e rfl hres heq
      obtain ⟨rfl, rfl⟩ := Prod.mk.inj heq
      exact ⟨_, s, .stop hstep hres, by simpa using hfirst⟩
    split at h
    · rename_i image heq
      obtain ⟨rfl, rfl⟩ := Prod.mk.inj heq
      refine next _ hfirst trivial ?_
      rw [← hstep.eq_lastBuilt, List.any_append]
      simpa [Attempt.isSkipped] using h
    · rename_i heq
      obtain ⟨rfl, rfl⟩ := Prod.mk.inj heq
      refine next _ hfirst trivial ?_
      rw [lastBuilt_concat_error, List.any_append]
      simpa [Attempt.isSkipped] using h
    · rename_i message heq
      obtain ⟨rfl, rfl⟩ := Prod.mk.inj heq
      by_cases hskip : earlier.any (·.isSkipped) = true
      · rw [if_pos hskip] at h
        refine next _ (hfirst.log [skipRecord message]) hskip ?_
        rw [lastBuilt_concat_error, List.any_append]
        simpa [Attempt.isSkipped] using h
      · rw [if_neg hskip] at h
        exact stop _ rfl hskip h
    · rename_i e hconfigured himage heq
      obtain ⟨rfl, rfl⟩ := Prod.mk.inj heq
      refine stop e rfl ?_ h
      cases e with
      | notConfigured => exact absurd rfl hconfigured
      | noImage message => exact absurd rfl (himage message)
      | _ => exact id

end ImageBuild
