import ImageBuild.Proofs.Builder.DryRun
import ImageBuild.Proofs.Builder.Reuse
import ImageBuild.Proofs.Builder.SkippedPushes

/-!
# Backends that are attached to nothing

A backend that is attached to nothing says so whatever it is asked. The build that a section begins
with is asked for and skipped; so there never is an image, the tags are skipped for want of one, and
every push is skipped after its tag was resolved (`SectionRun.of_detached`). So a run comes to the
same as one without a backend (`detached_likeNoBackend`), unless version control fails to answer.
-/

namespace ImageBuild

open World

variable {σ : Type} {settings dry : Settings σ} {context : BuildDir} {backend : Backend σ}
  {b b' : Builder} {w v : World σ}

/-- A backend that is attached to nothing: no request gets another answer. -/
structure Backend.IsDetached (backend : Backend σ) : Prop where
  build : ∀ s dir reference, (backend.build s dir reference).result = .error .notConfigured
  tag : ∀ s id repository tag, (backend.tag s id repository tag).result = .error .notConfigured
  push : ∀ s repository tag, (backend.push s repository tag).result = .error .notConfigured
  find : ∀ s pattern, (backend.find s pattern).result = .error .notConfigured
  removeReference : ∀ s reference,
    (backend.removeReference s reference).result = .error .notConfigured

/-- Version control answers every query about the context. -/
def Settings.Answers (settings : Settings σ) : Prop :=
  ∀ s query, ∃ text, (settings.provider.answer s query settings.context).2 = .ok text

/-- No push among some steps can fail for want of an answer. -/
def Settings.PushesAnswered (settings : Settings σ) (steps : List ImageStep) : Prop :=
  settings.Answers ∨ settings.skipPush = true ∨ ∀ step ∈ steps, step.isPush = false

/-- Whether a request gives an image a reference or takes one away. -/
def Event.changesReferences : Event → Bool
  | .tag _ _ _ | .removeReference _ => true
  | _ => false

theorem Settings.PushesAnswered.mono {steps steps' : List ImageStep}
    (h : settings.PushesAnswered steps) (hsteps : steps' ⊆ steps) :
    settings.PushesAnswered steps' :=
  h.imp_right fun h => h.imp_right fun h step hstep => h step (hsteps hstep)

/-! ## Steps -/

theorem TagSpec.Resolution.not_changesReferences {spec : TagSpec} {s s' : σ} {events : List Event}
    {result : Except BuildError String} (h : spec.Resolution settings s events s' result) :
    ∀ event ∈ events, event.changesReferences = false := by
  intro event he
  obtain ⟨query, rfl⟩ := h.eq_query_of_mem he
  rfl

theorem Settings.Answers.resolution (h : settings.Answers) {spec : TagSpec} {s s' : σ}
    {events : List Event} {e : BuildError} :
    ¬ spec.Resolution settings s events s' (.error e) := by
  intro hspec
  cases hspec with
  | unanswered hquery hanswer =>
    rename_i query frames
    obtain ⟨text, htext⟩ := h s query
    rw [hanswer] at htext
    cases htext

/-- A build is asked for and skipped. -/
theorem StepRun.build_of_detached (hbackend : settings.backend = some backend)
    (hdetached : backend.IsDetached) {image : Option String} {reference : String} {s s' : σ}
    {events : List Event} {result : Except BuildError (Option String)}
    (h : StepRun settings context image (.build reference) s events s' result) :
    events = [.build context reference] ∧ result = .error .notConfigured := by
  cases h with
  | unattached _ hnone =>
    rw [hbackend] at hnone
    cases hnone
  | built hother hcall =>
    obtain rfl := Option.some.inj (hbackend.symm.trans hother)
    rw [hdetached.build] at hcall
    cases hcall
  | notBuilt hother hcall =>
    obtain rfl := Option.some.inj (hbackend.symm.trans hother)
    rw [hdetached.build] at hcall
    obtain rfl := Except.error.inj hcall
    exact ⟨rfl, rfl⟩

/-- A step without an image gives none: it hands on that there is none, is skipped, or is a tag. -/
theorem StepRun.of_detached (hbackend : settings.backend = some backend)
    (hdetached : backend.IsDetached) {step : ImageStep} {s s' : σ} {events : List Event}
    {result : Except BuildError (Option String)}
    (h : StepRun settings context none step s events s' result)
    (hpushes : settings.PushesAnswered [step]) :
    (∀ event ∈ events, event.changesReferences = false) ∧
      (result = .ok none ∨ result = .error .notConfigured ∨
        ∃ message, result = .error (.noImage message)) := by
  cases h with
  | unattached => exact ⟨nofun, Or.inr (Or.inl rfl)⟩
  | noImage => exact ⟨nofun, Or.inr (Or.inr ⟨_, rfl⟩)⟩
  | tagUnresolved _ himage => cases himage
  | tagged _ himage => cases himage
  | notTagged _ himage => cases himage
  | pushSkipped => exact ⟨nofun, Or.inl rfl⟩
  | pushUnresolved hskip _ hspec =>
    rcases hpushes with hanswers | hskips | hnone
    · exact absurd hspec hanswers.resolution
    · exact absurd (hskip.symm.trans hskips) (by decide)
    · exact absurd (hnone _ List.mem_cons_self) (by simp [ImageStep.isPush])
  | pushed _ hother _ hcall =>
    obtain rfl := Option.some.inj (hbackend.symm.trans hother)
    rw [hdetached.push] at hcall
    cases hcall
  | notPushed _ hother hspec hcall =>
    obtain rfl := Option.some.inj (hbackend.symm.trans hother)
    rw [hdetached.push] at hcall
    obtain rfl := Except.error.inj hcall
    refine ⟨fun event he => ?_, Or.inr (Or.inl rfl)⟩
    rcases List.mem_append.1 he with he | he
    · exact hspec.not_changesReferences event he
    · rw [List.mem_singleton.1 he]
      rfl
  | built hother hcall =>
    obtain rfl := Option.some.inj (hbackend.symm.trans hother)
    rw [hdetached.build] at hcall
    cases hcall
  | notBuilt hother hcall =>
    obtain rfl := Option.some.inj (hbackend.symm.trans hother)
    rw [hdetached.build] at hcall
    obtain rfl := Except.error.inj hcall
    refine ⟨fun event he => ?_, Or.inr (Or.inl rfl)⟩
    rw [List.mem_singleton.1 he]
    rfl

/-! ## Sections -/

/-- Once a step was skipped and as long as there is no image, steps come to their end. -/
theorem SectionRun.of_skipped (hbackend : settings.backend = some backend)
    (hdetached : backend.IsDetached) {earlier attempts : List (Attempt σ)} {steps : List ImageStep}
    {s s' : σ} {result : Except BuildError (Option String)}
    (h : SectionRun settings context earlier steps s attempts s' result)
    (hpushes : settings.PushesAnswered steps) (himage : lastBuilt earlier = none)
    (hskipped : earlier.any (·.isSkipped) = true) :
    (∀ event ∈ attempts.flatMap (·.events), event.changesReferences = false) ∧
      result = .ok none := by
  induction h with
  | done => exact ⟨by simp, by rw [himage]⟩
  | goOn hstep hresult hrest ih =>
    rename_i earlier attempts step rest s s₁ s₂ events outcome final
    rw [himage] at hstep
    obtain ⟨hevents, houtcome⟩ :=
      hstep.of_detached hbackend hdetached (hpushes.mono (by simp))
    have hnone : lastBuilt (earlier ++ [Attempt.mk step s events s₁ outcome]) = none := by
      rcases houtcome with rfl | rfl | ⟨message, rfl⟩
      · rw [lastBuilt_concat, himage]
        cases step <;> rfl
      · rw [lastBuilt_concat_error, himage]
      · rw [lastBuilt_concat_error, himage]
    obtain ⟨hmore, hend⟩ := ih (hpushes.mono (List.subset_cons_self ..)) hnone
      (by rw [List.any_append, hskipped, Bool.true_or])
    refine ⟨fun event he => ?_, hend⟩
    rw [List.flatMap_cons, List.mem_append] at he
    exact he.elim (hevents event) (hmore event)
  | stop hstep hresult =>
    rw [himage] at hstep
    obtain ⟨-, hok | hnot | ⟨message, hnot⟩⟩ :=
      hstep.of_detached hbackend hdetached (hpushes.mono (by simp))
    · cases hok
    · rw [hnot] at hresult
      exact absurd trivial hresult
    · rw [hnot] at hresult
      exact absurd hskipped hresult

/-- The steps of a section that begins with a build come to their end without an image. -/
theorem SectionRun.of_detached (hbackend : settings.backend = some backend)
    (hdetached : backend.IsDetached) {attempts : List (Attempt σ)} {reference : String}
    {steps : List ImageStep} {s s' : σ} {result : Except BuildError (Option String)}
    (h : SectionRun settings context [] (.build reference :: steps) s attempts s' result)
    (hpushes : settings.PushesAnswered steps) :
    (∀ event ∈ attempts.flatMap (·.events), event.changesReferences = false) ∧
      result = .ok none := by
  cases h with
  | goOn hstep _ hrest =>
    obtain ⟨rfl, rfl⟩ := hstep.build_of_detached hbackend hdetached
    obtain ⟨hmore, hend⟩ := hrest.of_skipped hbackend hdetached hpushes rfl rfl
    refine ⟨fun event he => ?_, hend⟩
    rw [List.flatMap_cons, List.mem_append] at he
    rcases he with he | he
    · rw [List.mem_singleton.1 he]
      rfl
    · exact hmore event he
  | stop hstep hresult =>
    obtain ⟨-, he⟩ := hstep.build_of_detached hbackend hdetached
    rw [he] at hresult
    exact absurd trivial hresult

/-- The intermediate reference is looked for, and nothing is found. -/
theorem Reclaim.of_detached (hbackend : settings.backend = some backend)
    (hdetached : backend.IsDetached) {uuid : String} {s s' : σ} {cleanup : List Event}
    (h : Reclaim settings uuid s cleanup s') :
    ∀ event ∈ cleanup, event.changesReferences = false := by
  cases h with
  | unattached => exact nofun
  | nothing =>
    intro event he
    rw [List.mem_singleton.1 he]
    rfl
  | removed _ hother hfind =>
    obtain rfl := Option.some.inj (hbackend.symm.trans hother)
    rw [hdetached.find] at hfind
    cases hfind

/-- The parts of a plan that begin with a build and have no push that can fail for want of an
answer. -/
def Settings.Untroubled (settings : Settings σ) (plan : SectionPlan) : Prop :=
  ∃ reference steps, plan.steps = .build reference :: steps ∧ settings.PushesAnswered steps

/-- A run of such parts gives no image a reference and takes none away, and fails only to prepare a
section. -/
theorem Traced.of_detached (hbackend : settings.backend = some backend)
    (hdetached : backend.IsDetached) {plans : Plan} {traces : List (SectionTrace σ)} {s s' : σ}
    {result : Except BuildError Unit} (h : Traced settings plans s traces s' result)
    (hplans : ∀ plan ∈ plans, settings.Untroubled plan) :
    (∀ event ∈ traces.flatMap (·.events), event.changesReferences = false) ∧
      ∀ e, result = .error e → e.isPreparation = true := by
  induction h with
  | nil => exact ⟨by simp, nofun⟩
  | unprepared s he =>
    refine ⟨by simp, ?_⟩
    rintro _ ⟨⟩
    exact he
  | failed hsteps =>
    obtain ⟨reference, steps, hfirst, hpushes⟩ := hplans _ List.mem_cons_self
    rw [hfirst] at hsteps
    cases (hsteps.of_detached hbackend hdetached hpushes).2
  | cons hsteps hreclaim hrest ih =>
    obtain ⟨reference, steps, hfirst, hpushes⟩ := hplans _ List.mem_cons_self
    rw [hfirst] at hsteps
    obtain ⟨hmore, herror⟩ := ih fun plan hplan => hplans plan (List.mem_cons_of_mem _ hplan)
    refine ⟨fun event he => ?_, herror⟩
    rw [List.flatMap_cons, SectionTrace.events, List.mem_append, List.mem_append] at he
    rcases he with (he | he) | he
    · exact (hsteps.of_detached hbackend hdetached hpushes).1 event he
    · exact hreclaim.of_detached hbackend hdetached event he
    · exact hmore event he

namespace Builder

variable {plan : SectionPlan} {plans : Plan}

/-- A section in a run with a backend that is attached to nothing and in one without a backend. -/
theorem runSection_detached (hbackend : settings.backend = some backend)
    (hdetached : backend.IsDetached) (hdry : dry.backend = none)
    (hcontext : settings.context = dry.context) (hplan : settings.Untroubled plan)
    (hb : b.workdir = b'.workdir) (h : w.SameFiles v) :
    SameOutcome SameFiles (runSection settings b plan w) (runSection dry b' plan v) := by
  obtain ⟨b₁, b₁', w₁, v₁, made, hw, hv, hworkdir, h₁⟩ :=
    (clean_alike keptByWork_sameFiles hb h).exists
  unfold runSection
  rw [hw, hv]
  cases made with
  | error e => exact .intro hworkdir h₁ _
  | ok _ =>
    have hbound : (b₁.bind plan).workdir = (b₁'.bind plan).workdir := hworkdir
    have hsetup : SameResult SameFiles (setup settings (b₁.bind plan) w₁)
        (setup dry (b₁'.bind plan) v₁) :=
      setup_alike keptByWork_sameFiles hcontext hworkdir rfl h₁
    obtain ⟨w₂, v₂, staged, hw₂, hv₂, h₂⟩ := hsetup.exists
    dsimp only
    rw [hw₂, hv₂]
    cases staged with
    | error e => exact .intro hbound h₂ _
    | ok _ =>
      obtain ⟨place, hplace, -⟩ := allocate_of_clean hw
      have hplace' : (b₁'.bind plan).workdir = some place := hbound.symm.trans hplace
      obtain ⟨w₃, image, attempts, s, hw₃, hrun, hmoved⟩ := sectionRun_of_runSteps settings
        (b := b₁.bind plan) hplace plan (w₂.log [sectionRecord plan])
      obtain ⟨v₃, image', attempts', s', hv₃, hrun', hmoved'⟩ := sectionRun_of_runSteps dry
        (b := b₁'.bind plan) hplace' plan (v₂.log [sectionRecord plan])
      obtain ⟨reference, steps, hfirst, hpushes⟩ := hplan
      obtain ⟨-, image', rfl⟩ := hrun'.of_unattached hdry
      rw [hfirst] at hrun
      obtain ⟨-, rfl⟩ := hrun.of_detached hbackend hdetached hpushes
      have h₃ : w₃.SameFiles v₃ :=
        (hmoved.of_log.sameFiles.symm.trans h₂).trans hmoved'.of_log.sameFiles
      have hreclaim : (reclaim settings plan.uuid w₃).SameFiles (reclaim dry plan.uuid v₃) :=
        ((sameFiles_reclaim ..).symm.trans h₃).trans (sameFiles_reclaim ..)
      dsimp only
      rw [hw₃, hv₃]
      exact .intro ((workdir_release ..).trans (workdir_release ..).symm)
        (release_alike keptByWork_sameFiles hbound hreclaim) _

theorem runPlan_detached (hbackend : settings.backend = some backend)
    (hdetached : backend.IsDetached) (hdry : dry.backend = none)
    (hcontext : settings.context = dry.context) (hplans : ∀ plan ∈ plans, settings.Untroubled plan)
    (hb : b.workdir = b'.workdir) (h : w.SameFiles v) :
    SameOutcome SameFiles (b.runPlan settings w plans) (b'.runPlan dry v plans) := by
  induction plans generalizing b b' w v with
  | nil => exact .intro hb h _
  | cons plan rest ih =>
    obtain ⟨b₁, b₁', w₁, v₁, result, hw, hv, hworkdir, h₁⟩ := (runSection_detached hbackend
      hdetached hdry hcontext (hplans plan List.mem_cons_self) hb h).exists
    unfold runPlan
    rw [hw, hv]
    cases result with
    | error e => exact .intro hworkdir h₁ _
    | ok _ => exact ih (fun plan hplan => hplans plan (List.mem_cons_of_mem _ hplan)) hworkdir h₁

end Builder

/-! ## The same sections -/

/-- In a run of a plan, the files of the section at a position are staged at a place. -/
inductive StagesAt (settings : Settings σ) (b : Builder) (w : World σ) (plans : Plan) (k : Nat)
    (place : Place) : FileSystem → Prop
  | intro {plan : SectionPlan} {b₁ b₂ : Builder} {w₁ w₂ w₃ : World σ}
      (hplan : plans[k]? = some plan)
      (hbefore : b.runPlan settings w (plans.take k) = (b₁, w₁, .ok ()))
      (hprepared : Prepared settings b₁ plan w₁ b₂ w₂ place w₃) :
      StagesAt settings b w plans k place w₃.files

theorem SameOutcome.symm {r r' : Builder × World σ × Except BuildError Unit}
    (h : SameOutcome SameFiles r r') : SameOutcome SameFiles r' r := by
  cases h with
  | intro hworkdir h result => exact .intro hworkdir.symm h.symm result

theorem SameOutcome.result {r r' : Builder × World σ × Except BuildError Unit}
    (h : SameOutcome SameFiles r r') : r.2.2 = r'.2.2 := by
  cases h with
  | intro => rfl

/-- Which section fails is seen in the results of the runs of the first sections. -/
theorem failsAt_iff {plans : Plan} {k : Nat} {e : BuildError} :
    FailsAt settings b w plans k e ↔
      k < plans.length ∧ (b.runPlan settings w (plans.take k)).2.2 = .ok () ∧
        (b.runPlan settings w (plans.take (k + 1))).2.2 = .error e := by
  have hnext : ∀ {plan b₁ w₁}, plans[k]? = some plan →
      b.runPlan settings w (plans.take k) = (b₁, w₁, .ok ()) →
      (b.runPlan settings w (plans.take (k + 1))).2.2 =
        (b₁.runSection settings plan w₁).2.2 := by
    intro plan b₁ w₁ hplan hbefore
    rw [List.take_add_one, hplan, Option.toList_some, Builder.runPlan_append _ hbefore]
    unfold Builder.runPlan
    rcases b₁.runSection settings plan w₁ with ⟨b₂, w₂, e | _⟩ <;> rfl
  constructor
  · rintro ⟨hplan, hbefore, hfails⟩
    exact ⟨(List.getElem?_eq_some_iff.1 hplan).1, congrArg (·.2.2) hbefore,
      (hnext hplan hbefore).trans hfails⟩
  · rintro ⟨hk, hok, herror⟩
    rcases hbefore : b.runPlan settings w (plans.take k) with ⟨b₁, w₁, result⟩
    rw [hbefore] at hok
    obtain rfl : result = .ok () := hok
    have hplan := List.getElem?_eq_getElem hk
    exact .intro hplan hbefore ((hnext hplan hbefore).symm.trans herror)

/-- A section is prepared in the same way in worlds with the same files. -/
theorem Prepared.alike (hcontext : settings.context = dry.context) {plan : SectionPlan}
    {b₁ : Builder} {w₁ w₂ : World σ} {place : Place}
    (h : Prepared settings b plan w b₁ w₁ place w₂) (hb : b.workdir = b'.workdir)
    (hfiles : w.SameFiles v) :
    ∃ b₁' v₁ v₂, Prepared dry b' plan v b₁' v₁ place v₂ ∧ w₂.SameFiles v₂ := by
  obtain ⟨b₂, b₁', w₃, v₁, made, hw, hv, hworkdir, h₁⟩ :=
    (Builder.clean_alike keptByWork_sameFiles hb hfiles).exists
  rw [h.clean] at hw
  cases hw
  have hsetup : SameResult SameFiles (Builder.setup settings (b₁.bind plan) w₁)
      (Builder.setup dry (b₁'.bind plan) v₁) :=
    Builder.setup_alike keptByWork_sameFiles hcontext hworkdir rfl h₁
  obtain ⟨w₃, v₂, staged, hw₂, hv₂, h₂⟩ := hsetup.exists
  rw [h.setup] at hw₂
  cases hw₂
  exact ⟨b₁', v₁, v₂, ⟨hv, hworkdir.symm.trans h.workdir, hv₂⟩, h₂⟩

variable {plans : Plan} {k : Nat} {place : Place} {files : FileSystem}

theorem StagesAt.alike (hcontext : settings.context = dry.context)
    (hsame : SameOutcome SameFiles (b.runPlan settings w (plans.take k))
      (b'.runPlan dry v (plans.take k)))
    (h : StagesAt settings b w plans k place files) : StagesAt dry b' v plans k place files := by
  cases h with
  | intro hplan hbefore hprepared =>
    obtain ⟨b₁, b₁', w₁, v₁, result, hw, hv, hworkdir, h₁⟩ := hsame.exists
    rw [hbefore] at hw
    cases hw
    obtain ⟨_, _, v₃, hprepared', h₃⟩ := hprepared.alike hcontext hworkdir h₁
    rw [← h₃.files]
    exact .intro hplan hv hprepared'

/-! ## Runs -/

/-- A run with some settings comes to the same as one with others that have no backend. -/
structure LikeNoBackend (settings dry : Settings σ) (plans : Plan) (b : Builder) (w : World σ) :
    Prop where
  /-- The result is the same, and so are the files and the working directory that is held. -/
  outcome : SameOutcome SameFiles (b.runPlan settings w plans) (b.runPlan dry w plans)
  /-- A run fails only to prepare a section, and in both runs it is the same one. -/
  failures : ∀ e, (b.runPlan settings w plans).2.2 = .error e → e.isPreparation = true
  failsAt : ∀ k e, FailsAt settings b w plans k e ↔ FailsAt dry b w plans k e
  stages : ∀ k place files,
    StagesAt settings b w plans k place files ↔ StagesAt dry b w plans k place files
  /-- No image is given a reference, and none is taken away. -/
  requests : ∃ made, (b.runPlan settings w plans).2.1.events = w.events ++ made ∧
    ∀ event ∈ made, event.changesReferences = false
  nothing : (b.runPlan dry w plans).2.1.events = w.events
  released : plans ≠ [] → (b.runPlan settings w plans).2.2 = .ok () →
    (b.runPlan settings w plans).1.workdir = none ∧ (b.runPlan dry w plans).1.workdir = none

theorem likeNoBackend_of_detached (hbackend : settings.backend = some backend)
    (hdetached : backend.IsDetached) (hdry : dry.backend = none)
    (hcontext : settings.context = dry.context)
    (hplans : ∀ plan ∈ plans, settings.Untroubled plan) :
    LikeNoBackend settings dry plans b w := by
  have hsame : ∀ k, SameOutcome SameFiles (b.runPlan settings w (plans.take k))
      (b.runPlan dry w (plans.take k)) := fun k =>
    Builder.runPlan_detached hbackend hdetached hdry hcontext
      (fun plan hplan => hplans plan (List.mem_of_mem_take hplan)) rfl (.refl w)
  have hall := Builder.runPlan_detached hbackend hdetached hdry hcontext hplans
    (b := b) rfl (.refl w)
  obtain ⟨traces, htraced, hevents⟩ := Builder.traced_of_runPlan settings b w plans
  obtain ⟨hreferences, hpreparation⟩ := htraced.of_detached hbackend hdetached hplans
  obtain ⟨nothing, hnothing, hquiet⟩ := Builder.traced_of_runPlan dry b w plans
  rw [(hnothing.of_unattached hdry).1, List.append_nil] at hquiet
  refine ⟨hall, hpreparation, fun k e => ?_, fun k place files => ?_, ⟨_, hevents, hreferences⟩,
    hquiet, fun hne hok => ?_⟩
  · rw [failsAt_iff, failsAt_iff, (hsame k).result, (hsame (k + 1)).result]
  · exact ⟨.alike hcontext (hsame k), .alike hcontext.symm (hsame k).symm⟩
  · have hok' := hall.result.symm.trans hok
    exact ⟨Builder.workdir_of_runPlan hne (Prod.ext rfl (Prod.ext rfl hok)),
      Builder.workdir_of_runPlan hne (Prod.ext rfl (Prod.ext rfl hok'))⟩

/-- A section is planned with its build first, and without pushes if they are skipped. -/
theorem Compiler.untroubled_planSection {skipPush : Bool} {uuid : String} {s : Section}
    (h : settings.Answers ∨ settings.skipPush = true ∨ skipPush = true ∨ s.skipPush = true) :
    settings.Untroubled (planSection skipPush uuid s) := by
  refine ⟨_, _, rfl, h.imp_right fun h => h.imp_right fun h step hstep => ?_⟩
  have hskips : (s.skipPush || skipPush) = true := by
    rw [Bool.or_eq_true]
    exact h.symm
  rw [hskips, if_pos rfl, List.append_nil] at hstep
  obtain ⟨tag, -, rfl⟩ := List.mem_map.1 hstep
  rfl

/-- Running the plan of a configuration with a backend that is attached to nothing comes to the same
as running it without a backend, if version control answers or no push comes to ask it. -/
theorem detached_likeNoBackend (settings : Settings σ) (backend : Backend σ)
    (hbackend : settings.backend = some backend) (hdetached : backend.IsDetached) (c : Compiler)
    (draw : Nat → String) (used : Nat) (config : Config) (hvalid : config.validate = .ok ())
    (hpushes : settings.Answers ∨ settings.skipPush = true ∨ c.skipPush = true ∨
      ∀ s ∈ config.sections, s.skipPush = true) (b : Builder) (w : World σ) :
    ∃ plans used', c.compile draw used config = (.ok plans, used') ∧
      LikeNoBackend settings settings.dried plans b w := by
  refine ⟨(c.planSections draw used config.sections).1,
    (c.planSections draw used config.sections).2, by simp [Compiler.compile, hvalid],
    likeNoBackend_of_detached hbackend hdetached rfl rfl fun plan hplan => ?_⟩
  obtain ⟨s, hs, uuid, rfl⟩ := Compiler.exists_of_mem_planSections hplan
  exact Compiler.untroubled_planSection
    (hpushes.imp_right fun h => h.imp_right fun h => h.imp_right fun h => h s hs)

/-- The settings for a context at `/ctx` with a backend that is attached to nothing. -/
def Settings.detached : Settings Unit where
  context := "/ctx"
  backend := some
    { build := fun _ _ _ => ⟨(), [], .error .notConfigured⟩
      tag := fun _ _ _ _ => ⟨(), [], .error .notConfigured⟩
      push := fun _ _ _ => ⟨(), [], .error .notConfigured⟩
      find := fun _ _ => ⟨(), [], .error .notConfigured⟩
      removeReference := fun _ _ => ⟨(), [], .error .notConfigured⟩ }
  provider := FixedAnswers.provider ⟨some "main", some "1a2b3c", some "v1-2-g1a2b3c"⟩
  skipPush := false

/-- Of the two sections, the second one fails in both runs. -/
theorem detached_likeNoBackend_misplaced :
    (∀ backend, Settings.detached.backend = some backend → backend.IsDetached) ∧
      Settings.detached.Answers ∧ Config.misplaced.validate = .ok () ∧
      ∃ plans used', (Compiler.mk (.fixed "u") false).compile (fun _ => "") 0 .misplaced =
          (.ok plans, used') ∧
        LikeNoBackend .detached Settings.detached.dried plans .new .linked ∧
        ∃ e, FailsAt .detached .new .linked plans 1 e := by
  have hdetached : ∀ backend, Settings.detached.backend = some backend → backend.IsDetached := by
    rintro _ ⟨⟩
    exact ⟨fun _ _ _ => rfl, fun _ _ _ _ => rfl, fun _ _ _ => rfl, fun _ _ => rfl, fun _ _ => rfl⟩
  have hanswers : Settings.detached.Answers := fun _ query => by cases query <;> exact ⟨_, rfl⟩
  have hvalid : Config.misplaced.validate = .ok () := by decide +kernel
  obtain ⟨plans, used', hcompile, hlike⟩ := detached_likeNoBackend .detached _ rfl
    (hdetached _ rfl) (.mk (.fixed "u") false) (fun _ => "") 0 .misplaced hvalid (.inl hanswers)
    .new .linked
  refine ⟨hdetached, hanswers, hvalid, plans, used', hcompile, hlike, ?_⟩
  have hplans : plans =
      ((Compiler.mk (.fixed "u") false).planSections (fun _ => "") 0 Config.misplaced.sections).1 :=
    congrArg Prod.fst (Compiler.eq_planSections_of_compile hcompile).2.symm
  have hresults : plans.length = 2 ∧
      (Builder.new.runPlan .detached .linked (plans.take 1)).2.2.isOk = true ∧
      (Builder.new.runPlan .detached .linked (plans.take 2)).2.2.isOk = false := by
    rw [hplans]
    decide +kernel
  obtain ⟨hlength, hfirst, hsecond⟩ := hresults
  cases hfirst' : (Builder.new.runPlan .detached .linked (plans.take 1)).2.2 with
  | error e =>
    rw [hfirst'] at hfirst
    cases hfirst
  | ok _ =>
    cases hsecond' : (Builder.new.runPlan .detached .linked (plans.take 2)).2.2 with
    | error e => exact ⟨e, failsAt_iff.2 ⟨by omega, hfirst', hsecond'⟩⟩
    | ok _ =>
      rw [hsecond'] at hsecond
      cases hsecond

end ImageBuild
