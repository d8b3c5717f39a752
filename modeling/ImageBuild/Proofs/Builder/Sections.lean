import ImageBuild.Builder.Run
import ImageBuild.Proofs.Builder.Workdir
import ImageBuild.Proofs.Plan.Attempts

/-!
# What a section does

`SectionOutcome` has everything that running a section can come to: there is no working directory,
the files are not staged, a step fails, or all is done and the intermediate reference is looked for.
Running a section comes to one of these (`sectionOutcome`), and a run of a plan is made of them.
-/

namespace ImageBuild

variable {σ : Type} {settings : Settings σ} {b b' : Builder} {w w' : World σ} {plan : SectionPlan}

/-- The requests that look for an intermediate reference and remove it. -/
inductive Reclaim (settings : Settings σ) (uuid : String) : σ → List Event → σ → Prop
  | unattached (s : σ) (hbackend : settings.backend = none) : Reclaim settings uuid s [] s
  | nothing {backend : Backend σ} (s : σ) (hbackend : settings.backend = some backend)
      (hfind : ∀ image, (backend.find s (.ofSuffix uuid)).result = .ok (some image) →
        image.references.find? (Pattern.ofSuffix uuid).isMatch = none) :
      Reclaim settings uuid s [.find (.ofSuffix uuid)] (backend.find s (.ofSuffix uuid)).state
  | removed {backend : Backend σ} {image : Image} {reference : String} (s : σ)
      (hbackend : settings.backend = some backend)
      (hfind : (backend.find s (.ofSuffix uuid)).result = .ok (some image))
      (hreference : image.references.find? (Pattern.ofSuffix uuid).isMatch = some reference) :
      Reclaim settings uuid s [.find (.ofSuffix uuid), .removeReference reference]
        (backend.removeReference (backend.find s (.ofSuffix uuid)).state reference).state

/-- A section got a working directory at `place`, in the world `w₁`, and its files are staged there,
in the world `w₂`. -/
structure Prepared (settings : Settings σ) (b : Builder) (plan : SectionPlan) (w : World σ)
    (b₁ : Builder) (w₁ : World σ) (place : Place) (w₂ : World σ) : Prop where
  clean : b.clean w = (b₁, w₁, .ok ())
  workdir : b₁.workdir = some place
  setup : Builder.setup settings (b₁.bind plan) w₁ = (w₂, .ok ())

/-- What running a section comes to. -/
inductive SectionOutcome (settings : Settings σ) (b : Builder) (plan : SectionPlan) (w : World σ) :
    Builder × World σ × Except BuildError Unit → Prop
  | noWorkdir {b₁ : Builder} {w₁ : World σ} {e : BuildError}
      (hclean : b.clean w = (b₁, w₁, .error e)) :
      SectionOutcome settings b plan w (b₁, w₁, .error e)
  | notStaged {b₁ : Builder} {w₁ w₂ : World σ} {e : BuildError}
      (hclean : b.clean w = (b₁, w₁, .ok ()))
      (hsetup : Builder.setup settings (b₁.bind plan) w₁ = (w₂, .error e)) :
      SectionOutcome settings b plan w (b₁.bind plan, w₂, .error e)
  | failed {b₁ : Builder} {w₁ w₂ w₃ : World σ} {place : Place} {attempts : List (Attempt σ)}
      {s : σ} {e : BuildError}
      (hprepared : Prepared settings b plan w b₁ w₁ place w₂)
      (hsteps : SectionRun settings ⟨w₂.files, w₂.cwd, place.text⟩ [] plan.steps w₂.service attempts
        s (.error e))
      (hmoved : w₂.Moved (attempts.flatMap (·.events)) s w₃) :
      SectionOutcome settings b plan w (b₁.bind plan, w₃, .error e)
  | done {b₁ : Builder} {w₁ w₂ w₃ : World σ} {place : Place} {attempts : List (Attempt σ)}
      {image : Option String} {cleanup : List Event} {s s' : σ}
      (hprepared : Prepared settings b plan w b₁ w₁ place w₂)
      (hsteps : SectionRun settings ⟨w₂.files, w₂.cwd, place.text⟩ [] plan.steps w₂.service attempts
        s (.ok image))
      (hreclaim : Reclaim settings plan.uuid s cleanup s')
      (hmoved : w₂.Moved (attempts.flatMap (·.events) ++ cleanup) s' w₃) :
      SectionOutcome settings b plan w
        (((b₁.bind plan).release w₃).1, ((b₁.bind plan).release w₃).2, .ok ())

namespace Builder

theorem reclaim_reclaim (settings : Settings σ) (uuid : String) (w : World σ) :
    ∃ events s, Reclaim settings uuid w.service events s ∧
      w.Moved events s (reclaim settings uuid w) := by
  unfold reclaim
  split
  · rename_i hbackend
    exact ⟨[], _, .unattached _ hbackend, .refl w⟩
  · rename_i backend hbackend
    dsimp only
    split
    · rename_i hreq
      obtain ⟨hmoved, hfind⟩ := World.moved_of_request hreq
      exact ⟨_, _, .nothing _ hbackend fun image h => by simp [hfind] at h, hmoved⟩
    · rename_i hreq
      obtain ⟨hmoved, hfind⟩ := World.moved_of_request hreq
      exact ⟨_, _, .nothing _ hbackend fun image h => by simp [hfind] at h, hmoved.log _⟩
    · rename_i hreq
      obtain ⟨hmoved, hfind⟩ := World.moved_of_request hreq
      exact ⟨_, _, .nothing _ hbackend fun image h => by simp [hfind] at h, hmoved.log _⟩
    · rename_i w₁ image hreq
      obtain ⟨hmoved, hfind⟩ := World.moved_of_request hreq
      split
      · rename_i href
        refine ⟨_, _, .nothing _ hbackend fun image' h => ?_, hmoved⟩
        rw [hfind, Except.ok.injEq, Option.some.injEq] at h
        exact h ▸ href
      · rename_i reference href
        have hlogged := hmoved.log [.info .builder "deleting temporary tag"
          [("image.id", image.id), ("tag", reference)]]
        split
        · rename_i hrem
          have hremoved := (World.moved_of_request hrem).1
          rw [hlogged.service] at hremoved
          exact ⟨_, _, .removed _ hbackend hfind href, hlogged.trans hremoved⟩
        · rename_i hrem
          have hremoved := (World.moved_of_request hrem).1
          rw [hlogged.service] at hremoved
          exact ⟨_, _, .removed _ hbackend hfind href, (hlogged.trans hremoved).log _⟩

theorem sameFiles_reclaim (settings : Settings σ) (uuid : String) (w : World σ) :
    w.SameFiles (reclaim settings uuid w) := by
  obtain ⟨_, _, -, hmoved⟩ := reclaim_reclaim settings uuid w
  exact hmoved.sameFiles

/-- The steps of a section are run in its working directory. -/
theorem sectionRun_of_runSteps (settings : Settings σ) {place : Place}
    (hplace : b.workdir = some place) (plan : SectionPlan) (w : World σ) :
    ∃ w' result attempts s, runSteps settings b plan w = (w', result) ∧
      SectionRun settings ⟨w.files, w.cwd, place.text⟩ [] plan.steps w.service attempts s result ∧
      w.Moved (attempts.flatMap (·.events)) s w' := by
  have hrun : runSteps settings b plan w = ImageStep.runAll settings place.text
      (lastBuilt ([] : List (Attempt σ))) (([] : List (Attempt σ)).any (·.isSkipped)) plan.steps
      w := by
    unfold runSteps
    rw [hplace]
    rfl
  obtain ⟨attempts, s, hsteps, hmoved⟩ := ImageStep.sectionRun_of_runAll (Prod.eta _).symm
  exact ⟨_, _, attempts, s, hrun, hsteps, hmoved⟩

theorem sameFiles_runSteps (settings : Settings σ) (b : Builder) (plan : SectionPlan)
    (w : World σ) : w.SameFiles (runSteps settings b plan w).1 := by
  cases hplace : b.workdir with
  | none =>
    unfold runSteps
    rw [hplace]
    exact .refl w
  | some place =>
    obtain ⟨w', result, attempts, s, hrun, -, hmoved⟩ :=
      sectionRun_of_runSteps settings hplace plan w
    rw [hrun]
    exact hmoved.sameFiles

/-- Running a section comes to one of its outcomes. -/
theorem sectionOutcome (settings : Settings σ) (b : Builder) (plan : SectionPlan) (w : World σ) :
    SectionOutcome settings b plan w (runSection settings b plan w) := by
  unfold runSection
  split
  · rename_i hclean
    exact .noWorkdir hclean
  · rename_i b₁ w₁ hclean
    obtain ⟨place, hplace, -⟩ := allocate_of_clean hclean
    dsimp only
    split
    · rename_i hsetup
      exact .notStaged hclean hsetup
    · rename_i w₂ hsetup
      obtain ⟨w₃, result, attempts, s, hrun, hsteps, hmoved⟩ := sectionRun_of_runSteps settings
        (b := b₁.bind plan) hplace plan (w₂.log [sectionRecord plan])
      rw [hrun]
      rcases result with e | image
      · exact .failed ⟨hclean, hplace, hsetup⟩ hsteps hmoved.of_log
      · obtain ⟨cleanup, s', hreclaim, hcleaned⟩ := reclaim_reclaim settings plan.uuid w₃
        rw [hmoved.service] at hreclaim
        exact .done ⟨hclean, hplace, hsetup⟩ hsteps hreclaim (hmoved.trans hcleaned).of_log

end Builder

/-! ## Complete sections -/

/-- The requests of a section that is run to its end: those of its steps, then those for its
intermediate reference. -/
inductive SectionDone (settings : Settings σ) (plan : SectionPlan) : σ → List Event → σ → Prop
  | intro {context : BuildDir} {attempts : List (Attempt σ)} {image : Option String}
      {cleanup : List Event} {s s' s'' : σ}
      (hsteps : SectionRun settings context [] plan.steps s attempts s' (.ok image))
      (hreclaim : Reclaim settings plan.uuid s' cleanup s'') :
      SectionDone settings plan s (attempts.flatMap (·.events) ++ cleanup) s''

/-- The requests of sections that are run to their end. -/
inductive PlanDone (settings : Settings σ) : Plan → σ → List Event → σ → Prop
  | nil (s : σ) : PlanDone settings [] s [] s
  | cons {plan : SectionPlan} {rest : Plan} {s s' s'' : σ} {events more : List Event}
      (hsection : SectionDone settings plan s events s')
      (hrest : PlanDone settings rest s' more s'') :
      PlanDone settings (plan :: rest) s (events ++ more) s''

theorem Prepared.quiet {b₁ : Builder} {w₁ w₂ : World σ} {place : Place}
    (h : Prepared settings b plan w b₁ w₁ place w₂) : w.Quiet w₂ :=
  (Builder.quiet_of_clean h.clean).trans (Builder.quiet_of_setup h.setup)

namespace Builder

theorem sectionDone_of_runSection (h : runSection settings b plan w = (b', w', .ok ())) :
    ∃ events, SectionDone settings plan w.service events w'.service ∧
      w'.events = w.events ++ events := by
  have houtcome := sectionOutcome settings b plan w
  rw [h] at houtcome
  cases houtcome with
  | done hprepared hsteps hreclaim hmoved =>
    rename_i b₁ w₁ w₂ w₃ place attempts image cleanup s s'
    have hquiet := hprepared.quiet
    have hrelease := quiet_release (b₁.bind plan) w₃
    rw [hquiet.service] at hsteps
    rw [hrelease.service, hmoved.service, hrelease.events, hmoved.events, hquiet.events]
    exact ⟨_, .intro hsteps hreclaim, rfl⟩

theorem planDone_of_runPlan {plans : Plan}
    (h : runPlan settings b w plans = (b', w', .ok ())) :
    ∃ events, PlanDone settings plans w.service events w'.service ∧
      w'.events = w.events ++ events := by
  induction plans generalizing b w with
  | nil =>
    obtain ⟨-, hw⟩ := Prod.mk.inj h
    obtain ⟨rfl, -⟩ := Prod.mk.inj hw
    exact ⟨[], .nil _, by simp⟩
  | cons plan rest ih =>
    unfold runPlan at h
    split at h
    · cases h
    · rename_i b₁ w₁ hsection
      obtain ⟨events, hdone, hevents⟩ := sectionDone_of_runSection hsection
      obtain ⟨more, hrest, hmore⟩ := ih h
      exact ⟨events ++ more, .cons hdone hrest, by rw [hmore, hevents, List.append_assoc]⟩

/-- After some sections were run to their end, a run goes on with the rest. -/
theorem runPlan_append {before : Plan} (after : Plan)
    (h : runPlan settings b w before = (b', w', .ok ())) :
    runPlan settings b w (before ++ after) = runPlan settings b' w' after := by
  induction before generalizing b w with
  | nil =>
    obtain ⟨rfl, hw⟩ := Prod.mk.inj h
    obtain ⟨rfl, -⟩ := Prod.mk.inj hw
    rfl
  | cons plan rest ih =>
    unfold runPlan at h
    rw [List.cons_append, runPlan]
    split at h
    · cases h
    · exact ih h

/-- A run that fails is not gone on with. -/
theorem runPlan_append_error {before : Plan} (after : Plan) {e : BuildError}
    (h : runPlan settings b w before = (b', w', .error e)) :
    runPlan settings b w (before ++ after) = (b', w', .error e) := by
  induction before generalizing b w with
  | nil => cases h
  | cons plan rest ih =>
    unfold runPlan at h
    rw [List.cons_append, runPlan]
    split at h
    · exact h
    · exact ih h

/-- A run that fails does so in some section, after the sections before it were run to their end. -/
theorem exists_of_runPlan_error {plans : Plan} {e : BuildError}
    (h : runPlan settings b w plans = (b', w', .error e)) :
    ∃ before plan after b₁ w₁, plans = before ++ plan :: after ∧
      runPlan settings b w before = (b₁, w₁, .ok ()) ∧
      runSection settings b₁ plan w₁ = (b', w', .error e) := by
  induction plans generalizing b w with
  | nil => cases h
  | cons plan rest ih =>
    unfold runPlan at h
    split at h
    · rename_i hsection
      exact ⟨[], plan, rest, b, w, rfl, rfl, hsection.trans h⟩
    · rename_i b₁ w₁ hsection
      obtain ⟨before, plan', after, b₂, w₂, rfl, hbefore, hfail⟩ := ih h
      refine ⟨plan :: before, plan', after, b₂, w₂, rfl, ?_, hfail⟩
      rw [runPlan, hsection]
      exact hbefore

end Builder

end ImageBuild
