import ImageBuild.Proofs.Agreement
import ImageBuild.Proofs.Builder.Reclaiming
import ImageBuild.Proofs.Builder.Traces

/-!
# Skipped pushes

Pushing can be skipped when a plan is made, when it is run, and section by section in the
configuration. A skipped push hands the image on, asks for nothing and is no reason to skip what
follows; so a run that skips its pushes comes to the same as the run of the plan without them
(`runPlan_skipping`), except for the records of the pushes it was about to make. All three ways
therefore agree, and none of them asks for anything on behalf of a push (`skippedPushes_agree`).
-/

namespace ImageBuild

variable {σ : Type}

/-- Whether a step is a push. -/
def ImageStep.isPush : ImageStep → Bool
  | .push _ _ => true
  | _ => false

/-- Whether a record says that a push is about to be run. -/
def LogRecord.announcesPush (r : LogRecord) : Bool :=
  r.message = "running docker command" &&
    r.fields.any fun (_, command) => "docker push ".toList.isPrefixOf command.toList

/-- The same settings, but for whether pushes are skipped. -/
def Settings.skipping (settings : Settings σ) (skip : Bool) : Settings σ :=
  { settings with skipPush := skip }

/-- The part of a plan for the same section without its pushes. -/
def SectionPlan.withoutPushes (plan : SectionPlan) : SectionPlan :=
  { plan with steps := plan.steps.filter (!·.isPush) }

/-- The same configuration with pushing skipped in every section. -/
def Config.skippingPushes (config : Config) : Config :=
  { config with sections := config.sections.map fun s => { s with skipPush := true } }

/-- The records of a run that have nothing to do with pushes. -/
abbrev LogRecord.isKept (r : LogRecord) : Bool := !r.announcesPush

theorem announcesPush_startRecord (repository : String) (spec : TagSpec) :
    (ImageStep.push repository spec).startRecord.announcesPush = true := by
  have hmessage : (ImageStep.push repository spec).message =
      "docker push " ++ (repository ++ ":" ++ spec.text) := by
    rw [← String.append_assoc, ← String.append_assoc]
    rfl
  have hprefix : "docker push ".toList <+: (ImageStep.push repository spec).message.toList := by
    rw [hmessage, String.toList_append]
    exact List.prefix_append _ _
  have hfield := List.isPrefixOf_iff_prefix.2 hprefix
  simpa [LogRecord.announcesPush, ImageStep.startRecord, LogRecord.info] using hfield

/-! ## Steps -/

open World

variable {w v : World σ}

theorem ImageStep.run_skipping (settings : Settings σ) (skip : Bool)
    (h : Agree LogRecord.isKept w v) {step : ImageStep} (hstep : step.isPush = false) (dir : String)
    (image : Option String) :
    SameResult (Agree LogRecord.isKept) (run (settings.skipping true) dir image step w)
      (run (settings.skipping skip) dir image step v) := by
  cases step with
  | build reference => exact runBuild_agree settings h dir reference
  | tag repository spec => exact runTag_agree settings h image repository spec
  | push repository spec => cases hstep

/-- Running steps with pushing skipped comes to the same as running those steps that are no
pushes. -/
theorem ImageStep.runAll_skipping (settings : Settings σ) (skip : Bool) (dir : String)
    (image : Option String) (skipped : Bool) (steps : List ImageStep)
    (h : Agree LogRecord.isKept w v) :
    SameResult (Agree LogRecord.isKept) (runAll (settings.skipping true) dir image skipped steps w)
      (runAll (settings.skipping skip) dir image skipped (steps.filter (!·.isPush)) v) := by
  induction steps generalizing image skipped w v with
  | nil =>
    rw [List.filter_nil]
    exact .intro h _
  | cons step rest ih =>
    by_cases hpush : step.isPush = true
    · -- the push hands the image on, and only its record is left
      rw [List.filter_cons_of_neg (by simp [hpush])]
      cases step with
      | push repository spec =>
        exact ih image skipped (h.log_dropped (by simp [announcesPush_startRecord]))
      | _ => cases hpush
    · rw [Bool.not_eq_true] at hpush
      rw [List.filter_cons_of_pos (by simp [hpush])]
      exact runAll_cons_agree
        (run_skipping settings skip (h.log [step.startRecord]) hpush dir image)
        (fun image skipped _ _ h => ih image skipped h) skipped

/-! ## Sections -/

namespace Builder

theorem runSteps_skipping (settings : Settings σ) (skip : Bool) {b b' : Builder}
    (hb : b.workdir = b'.workdir) (plan : SectionPlan) (h : Agree LogRecord.isKept w v) :
    SameResult (Agree LogRecord.isKept) (runSteps (settings.skipping true) b plan w)
      (runSteps (settings.skipping skip) b' plan.withoutPushes v) := by
  unfold runSteps
  rw [hb]
  cases b'.workdir with
  | none => exact .intro h _
  | some place => exact ImageStep.runAll_skipping settings skip place.text none false plan.steps h

theorem runSection_skipping (settings : Settings σ) (skip : Bool) {b b' : Builder}
    (hb : b.workdir = b'.workdir) (plan : SectionPlan) (h : Agree LogRecord.isKept w v) :
    SameOutcome (Agree LogRecord.isKept) (runSection (settings.skipping true) b plan w)
      (runSection (settings.skipping skip) b' plan.withoutPushes v) := by
  obtain ⟨b₁, b₁', w₁, v₁, made, hw, hv, hworkdir, h₁⟩ := (clean_alike keptByWork_agree hb h).exists
  unfold runSection
  rw [hw, hv]
  cases made with
  | error e => exact .intro hworkdir h₁ _
  | ok _ =>
    have hbound : (b₁.bind plan).workdir = (b₁'.bind plan.withoutPushes).workdir := hworkdir
    have hsetup : SameResult (Agree LogRecord.isKept)
        (setup (settings.skipping true) (b₁.bind plan) w₁)
        (setup (settings.skipping skip) (b₁'.bind plan.withoutPushes) v₁) :=
      setup_alike keptByWork_agree rfl hworkdir rfl h₁
    obtain ⟨w₂, v₂, staged, hw₂, hv₂, h₂⟩ := hsetup.exists
    dsimp only
    rw [hw₂, hv₂]
    cases staged with
    | error e => exact .intro hbound h₂ _
    | ok _ =>
      obtain ⟨w₃, v₃, image, hw₃, hv₃, h₃⟩ :=
        (runSteps_skipping settings skip hbound plan (h₂.log [sectionRecord plan])).exists
      dsimp only
      rw [hw₃, show sectionRecord plan.withoutPushes = sectionRecord plan from rfl, hv₃]
      cases image with
      | error e => exact .intro hbound h₃ _
      | ok image =>
        have hreclaim := reclaim_agree (settings.skipping true) h₃ plan.uuid
        refine .intro ?_ (release_alike keptByWork_agree hbound hreclaim) _
        exact (workdir_release ..).trans (workdir_release ..).symm

/-- A run that skips its pushes comes to the same as the run of the plan without them. -/
theorem runPlan_skipping (settings : Settings σ) (skip : Bool) {b b' : Builder}
    (hb : b.workdir = b'.workdir) (plans : Plan) (h : Agree LogRecord.isKept w v) :
    SameOutcome (Agree LogRecord.isKept) (b.runPlan (settings.skipping true) w plans)
      (b'.runPlan (settings.skipping skip) v (plans.map SectionPlan.withoutPushes)) := by
  induction plans generalizing b b' w v with
  | nil => exact .intro hb h _
  | cons plan rest ih =>
    obtain ⟨b₁, b₁', w₁, v₁, result, hw, hv, hworkdir, h₁⟩ :=
      (runSection_skipping settings skip hb plan h).exists
    rw [List.map_cons]
    unfold runPlan
    rw [hw, hv]
    cases result with
    | error e => exact .intro hworkdir h₁ _
    | ok _ => exact ih hworkdir h₁

end Builder

/-! ## Plans -/

theorem Config.validate_skippingPushes (config : Config) :
    config.skippingPushes.validate = config.validate := by
  have hfirst : ∀ (sections : List Section) (position : Nat) (names : List String),
      firstFault? position names (sections.map fun s => { s with skipPush := true }) =
        firstFault? position names sections := by
    intro sections
    induction sections with
    | nil => exact fun _ _ => rfl
    | cons s rest ih =>
      intro position names
      have hsection : Section.fault? position names { s with skipPush := true } =
        s.fault? position names := rfl
      rw [List.map_cons, firstFault?, firstFault?, hsection, ih]
  unfold validate fault? skippingPushes
  rw [hfirst]

namespace Compiler

theorem withoutPushes_planSection (uuid : String) (s : Section) :
    (planSection false uuid s).withoutPushes = planSection true uuid s := by
  have htags : (s.tags.map (ImageStep.tag s.repository)).filter (!·.isPush) =
      s.tags.map (ImageStep.tag s.repository) := by
    simp [List.filter_eq_self, ImageStep.isPush]
  have hpushes : (s.tags.map (ImageStep.push s.repository)).filter (!·.isPush) = [] := by
    simp [ImageStep.isPush]
  have hsteps : (steps false uuid s).filter (!·.isPush) = steps true uuid s := by
    unfold steps
    rw [List.filter_cons_of_pos rfl, List.filter_append, htags]
    by_cases hskip : s.skipPush = true
    · simp [hskip]
    · simp [hskip, hpushes]
  unfold planSection SectionPlan.withoutPushes
  rw [hsteps]

theorem planSections_withoutPushes (uuids : UuidSource) (draw : Nat → String) (used : Nat)
    (sections : List Section) :
    (Compiler.mk uuids true).planSections draw used sections =
      (((Compiler.mk uuids false).planSections draw used sections).1.map SectionPlan.withoutPushes,
        ((Compiler.mk uuids false).planSections draw used sections).2) := by
  induction sections generalizing used with
  | nil => rfl
  | cons s rest ih =>
    unfold planSections
    dsimp only
    rw [ih, List.map_cons, withoutPushes_planSection]

theorem planSections_skippingPushes (uuids : UuidSource) (draw : Nat → String) (used : Nat)
    (sections : List Section) :
    (Compiler.mk uuids false).planSections draw used
        (sections.map fun s => { s with skipPush := true }) =
      (Compiler.mk uuids true).planSections draw used sections := by
  induction sections generalizing used with
  | nil => rfl
  | cons s rest ih =>
    have hsection : ∀ uuid, planSection false uuid { s with skipPush := true } =
        planSection true uuid s := by
      intro uuid
      simp [planSection, steps, Section.repository]
    rw [List.map_cons]
    unfold planSections
    dsimp only
    rw [ih, hsection]

end Compiler

/-! ## Requests -/

/-- What a run of a plan asks for, section by section, and nothing of it is for a push. -/
inductive Pushless (settings : Settings σ) (plans : Plan) (w w' : World σ)
    (result : Except BuildError Unit) : Prop
  | intro {traces : List (SectionTrace σ)}
      (htraced : Traced settings plans w.service traces w'.service result)
      (hevents : w'.events = w.events ++ traces.flatMap (·.events))
      (hpush : ∀ repository tag, .push repository tag ∉ traces.flatMap (·.events))
      (hqueries : ∀ t ∈ traces, ∀ a ∈ t.attempts, a.step.isPush = true → a.events = [])

theorem StepRun.pushless {settings : Settings σ} {context : BuildDir} {image : Option String}
    {step : ImageStep} {s s' : σ} {events : List Event} {result : Except BuildError (Option String)}
    (h : StepRun settings context image step s events s' result)
    (hskip : settings.skipPush = true ∨ step.isPush = false) :
    (∀ repository tag, .push repository tag ∉ events) ∧ (step.isPush = true → events = []) := by
  have hnothing : step.isPush = true → events = [] := by
    intro hpush
    have hon : settings.skipPush = true := hskip.resolve_right (by simp [hpush])
    cases h with
    | unattached => rfl
    | pushSkipped => rfl
    | pushUnresolved hno => exact absurd (hon.symm.trans hno) (by decide)
    | pushed hno => exact absurd (hon.symm.trans hno) (by decide)
    | notPushed hno => exact absurd (hon.symm.trans hno) (by decide)
    | _ => cases hpush
  refine ⟨fun repository tag he => ?_, hnothing⟩
  rcases h.event_cases he with ⟨_, he⟩ | ⟨_, -, he⟩ | ⟨_, _, _, _, -, -, he⟩ | ⟨_, _, _, hstep, -⟩
  · cases he
  · cases he
  · cases he
  · rw [hnothing (by rw [hstep]; rfl)] at he
    cases he

theorem Reclaim.push_not_mem {settings : Settings σ} {uuid : String} {s s' : σ}
    {cleanup : List Event} (h : Reclaim settings uuid s cleanup s') (repository tag : String) :
    Event.push repository tag ∉ cleanup := by
  cases h <;> simp

/-- A run asks for nothing on behalf of a push if pushes are skipped, or if its plan has none. -/
theorem Builder.pushless_of_runPlan (settings : Settings σ) (b : Builder) (w : World σ)
    (plans : Plan) (hskip : settings.skipPush = true ∨
      ∀ plan ∈ plans, ∀ step ∈ plan.steps, step.isPush = false) :
    Pushless settings plans w (b.runPlan settings w plans).2.1 (b.runPlan settings w plans).2.2 := by
  obtain ⟨traces, htraced, hevents⟩ := traced_of_runPlan settings b w plans
  have hattempt : ∀ t ∈ traces, ∀ a ∈ t.attempts,
      (∀ repository tag, .push repository tag ∉ a.events) ∧ (a.step.isPush = true → a.events = []) := by
    intro t ht a ha
    obtain ⟨context, s₀, s₁, outcome, hsteps, -⟩ := htraced.section ht
    obtain ⟨xs, ys, hsplit⟩ := List.append_of_mem ha
    refine (hsteps.attempt hsplit).1.pushless (hskip.imp_right fun hplans => ?_)
    have hstep : a.step ∈ t.plan.steps := hsteps.steps_prefix.subset (List.mem_map_of_mem ha)
    exact hplans t.plan (htraced.plans.1.subset (List.mem_map_of_mem ht)) a.step hstep
  refine .intro htraced hevents (fun repository tag he => ?_) fun t ht a ha => (hattempt t ht a ha).2
  obtain ⟨t, ht, he⟩ := List.mem_flatMap.1 he
  rcases List.mem_append.1 he with he | he
  · obtain ⟨a, ha, he⟩ := List.mem_flatMap.1 he
    exact (hattempt t ht a ha).1 repository tag he
  · obtain ⟨_, _, _, _, -, -, hcleanup | ⟨_, hreclaim⟩⟩ := htraced.section ht
    · rw [hcleanup] at he
      cases he
    · exact hreclaim.push_not_mem repository tag he

/-- The three ways of skipping pushes agree. Skipping them when the plan is made and in every section
of the configuration give the same plan, and running it comes to the same as running the plan with
all its pushes while they are skipped. Neither run asks for anything on behalf of a push. -/
theorem skippedPushes_agree (settings : Settings σ) (uuids : UuidSource) (draw : Nat → String)
    (used : Nat) (config : Config) (hvalid : config.validate = .ok ()) (b : Builder) (w : World σ) :
    ∃ plans pushing used',
      (Compiler.mk uuids true).compile draw used config = (.ok plans, used') ∧
      (Compiler.mk uuids false).compile draw used config.skippingPushes = (.ok plans, used') ∧
      (Compiler.mk uuids false).compile draw used config = (.ok pushing, used') ∧
      SameOutcome (Agree LogRecord.isKept) (b.runPlan (settings.skipping true) w pushing)
        (b.runPlan (settings.skipping false) w plans) ∧
      Pushless (settings.skipping true) pushing w
        (b.runPlan (settings.skipping true) w pushing).2.1
        (b.runPlan (settings.skipping true) w pushing).2.2 ∧
      Pushless (settings.skipping false) plans w
        (b.runPlan (settings.skipping false) w plans).2.1
        (b.runPlan (settings.skipping false) w plans).2.2 := by
  have hskipping := config.validate_skippingPushes.trans hvalid
  have hplans := Compiler.planSections_withoutPushes uuids draw used config.sections
  have hsections := Compiler.planSections_skippingPushes uuids draw used config.sections
  rcases hpushing : (Compiler.mk uuids false).planSections draw used config.sections with
    ⟨pushing, used'⟩
  rw [hpushing] at hplans
  refine ⟨pushing.map SectionPlan.withoutPushes, pushing, used', ?_, ?_, ?_, ?_, ?_, ?_⟩
  · unfold Compiler.compile
    rw [hvalid]
    dsimp only
    rw [hplans]
  · unfold Compiler.compile
    rw [hskipping]
    dsimp only [Config.skippingPushes]
    rw [hsections, hplans]
  · unfold Compiler.compile
    rw [hvalid]
    dsimp only
    rw [hpushing]
  · exact Builder.runPlan_skipping settings false rfl pushing (.refl w)
  · exact Builder.pushless_of_runPlan (settings.skipping true) b w pushing (Or.inl rfl)
  · refine Builder.pushless_of_runPlan (settings.skipping false) b w _ (Or.inr fun plan hplan => ?_)
    obtain ⟨plan, -, rfl⟩ := List.mem_map.1 hplan
    intro step hstep
    simpa using (List.mem_filter.1 hstep).2

theorem skippedPushes_agree_shared :
    Config.shared.validate = .ok () ∧
      SameOutcome (Agree LogRecord.isKept)
        (Builder.new.runPlan ((Settings.inMemory "/ctx" .counted false).skipping true) .stocked
          SectionPlan.shared)
        (Builder.new.runPlan ((Settings.inMemory "/ctx" .counted false).skipping false) .stocked
          (SectionPlan.shared.map SectionPlan.withoutPushes)) := by
  have hvalid : Config.shared.validate = .ok () := by decide +kernel
  have hcompile : ((Compiler.mk (.fixed "u") false).compile (fun _ => "") 0 .shared).1 =
      .ok SectionPlan.shared := by decide +kernel
  have hskipping : ((Compiler.mk (.fixed "u") true).compile (fun _ => "") 0 .shared).1 =
      .ok (SectionPlan.shared.map SectionPlan.withoutPushes) := by decide +kernel
  obtain ⟨plans, pushing, used', hplans, -, hpushing, hsame, -⟩ := skippedPushes_agree
    (.inMemory "/ctx" .counted false) (.fixed "u") (fun _ => "") 0 .shared hvalid .new .stocked
  rw [hpushing] at hcompile
  rw [hplans] at hskipping
  obtain rfl := Except.ok.inj hcompile
  obtain rfl := Except.ok.inj hskipping
  exact ⟨hvalid, hsame⟩

end ImageBuild
