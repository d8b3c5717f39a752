import ImageBuild.Proofs.Plan.Attempts

/-!
# Runs with an attached backend

Where the backend is attached to something, no step is skipped: the steps of a section are run one
after the other, each one is given the image that the one before it gave, and the first error ends
the run. `StraightRun` has these runs, and `SectionRun.straight` shows that there are no others.
-/

namespace ImageBuild

variable {σ : Type} {settings : Settings σ} {context : BuildDir}

/-- A backend that never says that it is not attached to anything. -/
structure Backend.IsConfigured (backend : Backend σ) : Prop where
  build : ∀ s dir reference, (backend.build s dir reference).result ≠ .error .notConfigured
  tag : ∀ s id repository tag, (backend.tag s id repository tag).result ≠ .error .notConfigured
  push : ∀ s repository tag, (backend.push s repository tag).result ≠ .error .notConfigured

/-- What running some steps does that are given an image, if no step is skipped. -/
inductive StraightRun (settings : Settings σ) (context : BuildDir) :
    Option String → List ImageStep → σ → List (Attempt σ) → σ →
      Except BuildError (Option String) → Prop
  | done (image : Option String) (s : σ) : StraightRun settings context image [] s [] s (.ok image)
  | goOn {image image' : Option String} {step : ImageStep} {rest : List ImageStep} {s s' s'' : σ}
      {events : List Event} {attempts : List (Attempt σ)}
      {final : Except BuildError (Option String)}
      (hstep : StepRun settings context image step s events s' (.ok image'))
      (hrest : StraightRun settings context image' rest s' attempts s'' final) :
      StraightRun settings context image (step :: rest) s
        (⟨step, s, events, s', .ok image'⟩ :: attempts) s'' final
  | stop {image : Option String} {step : ImageStep} {rest : List ImageStep} {s s' : σ}
      {events : List Event} {e : BuildError}
      (hstep : StepRun settings context image step s events s' (.error e)) :
      StraightRun settings context image (step :: rest) s [⟨step, s, events, s', .error e⟩] s'
        (.error e)

theorem BuildError.ofBackend_ne {operation : String} {fault : BackendFault}
    (h : fault ≠ .notConfigured) : BuildError.ofBackend operation fault ≠ .notConfigured := by
  cases fault with
  | notConfigured => exact absurd rfl h
  | failed frames => exact nofun

theorem TagSpec.Resolution.ne_notConfigured {spec : TagSpec} {s s' : σ} {events : List Event}
    {e : BuildError} (h : spec.Resolution settings s events s' (.error e)) :
    e ≠ .notConfigured := by
  cases h with
  | unanswered => exact nofun

theorem StepRun.ne_notConfigured {backend : Backend σ} (hbackend : settings.backend = some backend)
    (hconf : backend.IsConfigured) {image : Option String} {step : ImageStep} {s s' : σ}
    {events : List Event} {e : BuildError}
    (h : StepRun settings context image step s events s' (.error e)) : e ≠ .notConfigured := by
  have hsame : ∀ {other : Backend σ}, settings.backend = some other → other = backend := by
    intro other hother
    exact Option.some.inj (hother.symm.trans hbackend)
  cases h with
  | unattached _ hnone =>
    rw [hbackend] at hnone
    cases hnone
  | notBuilt hother hcall =>
    obtain rfl := hsame hother
    refine BuildError.ofBackend_ne ?_
    rintro rfl
    exact hconf.build _ _ _ hcall
  | noImage => exact nofun
  | tagUnresolved _ _ hspec => exact hspec.ne_notConfigured
  | notTagged hother _ _ hcall =>
    obtain rfl := hsame hother
    refine BuildError.ofBackend_ne ?_
    rintro rfl
    exact hconf.tag _ _ _ _ hcall
  | pushUnresolved _ _ hspec => exact hspec.ne_notConfigured
  | notPushed _ hother _ hcall =>
    obtain rfl := hsame hother
    refine BuildError.ofBackend_ne ?_
    rintro rfl
    exact hconf.push _ _ _ hcall

/-- With a backend that is attached, no attempt is skipped, and only those that succeed are
tolerated. -/
theorem SectionRun.straight {backend : Backend σ} (hbackend : settings.backend = some backend)
    (hconf : backend.IsConfigured) {earlier attempts : List (Attempt σ)} {steps : List ImageStep}
    {s s' : σ} {result : Except BuildError (Option String)}
    (h : SectionRun settings context earlier steps s attempts s' result)
    (hearlier : earlier.any (·.isSkipped) = false) :
    StraightRun settings context (lastBuilt earlier) steps s attempts s' result := by
  induction h with
  | done => exact .done _ _
  | goOn hstep hresult hrest ih =>
    rename_i earlier _ step _ s s₁ _ events outcome _
    cases outcome with
    | error e =>
      have hnot := hstep.ne_notConfigured hbackend hconf
      cases e with
      | notConfigured => exact absurd rfl hnot
      | noImage message =>
        have hany : earlier.any (·.isSkipped) = true := hresult
        rw [hearlier] at hany
        cases hany
      | _ => exact hresult.elim
    | ok image =>
      have hlast := hstep.eq_lastBuilt
      have hany : (earlier ++ [Attempt.mk step s events s₁ (.ok image)]).any (·.isSkipped) =
          false := by
        rw [List.any_append, hearlier]
        rfl
      have hrest' := ih hany
      rw [← hlast] at hrest'
      exact .goOn hstep hrest'
  | stop hstep => exact .stop hstep

namespace StraightRun

variable {image : Option String} {steps : List ImageStep} {s s' : σ} {attempts : List (Attempt σ)}
  {result : Except BuildError (Option String)}

/-- Every attempt before the last one succeeded. -/
theorem ok_of_append (h : StraightRun settings context image steps s attempts s' result)
    {xs ys : List (Attempt σ)} {a : Attempt σ} (ha : attempts = xs ++ a :: ys) :
    ∀ x ∈ xs, ∃ image, x.result = .ok image := by
  induction h generalizing xs with
  | done => simp at ha
  | goOn hstep hrest ih =>
    intro x hx
    cases xs with
    | nil => cases hx
    | cons y xs =>
      obtain ⟨rfl, hxs⟩ := List.cons.inj ha
      rcases List.mem_cons.1 hx with rfl | hx
      · exact ⟨_, rfl⟩
      · exact ih hxs x hx
  | stop =>
    cases xs with
    | nil => exact fun x hx => nomatch hx
    | cons y xs => simp at ha

/-- Without a build, all tags are for the image that the steps are given. -/
theorem image_eq_of_mem (h : StraightRun settings context image steps s attempts s' result)
    (hsteps : ∀ reference, .build reference ∉ steps) {id repository tag : String}
    (he : .tag id repository tag ∈ attempts.flatMap (·.events)) : image = some id := by
  induction h with
  | done => simp at he
  | goOn hstep hrest ih =>
    rename_i image image' step rest s s' s'' events attempts final
    rw [List.flatMap_cons] at he
    rcases List.mem_append.1 he with he | he
    · exact hstep.image_eq_of_mem he
    · have himage' := ih (fun reference hmem => hsteps reference (List.mem_cons_of_mem _ hmem)) he
      have hor := hstep.eq_of_ok
      cases step with
      | build reference => exact absurd List.mem_cons_self (hsteps reference)
      | _ => exact hor.symm.trans himage'
  | stop hstep =>
    rw [List.flatMap_singleton] at he
    exact hstep.image_eq_of_mem he

end StraightRun

end ImageBuild
