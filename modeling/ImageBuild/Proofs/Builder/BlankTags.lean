import ImageBuild.Proofs.Builder.Isolation
import ImageBuild.Proofs.Builder.Queries
import ImageBuild.Proofs.Builder.Results
import ImageBuild.Proofs.Config.FirstFault

/-!
# Blank tags

A well-formed configuration has no blank tag, but version control may answer a query with a blank
text. Such an answer reaches the backend as it is, and nothing else blank does
(`blankTag_iff_of_runPlan`, `empty_branch_tagged`).
-/

namespace ImageBuild

variable {σ : Type} {settings : Settings σ}

/-- A request that hands a blank tag to the backend. -/
def Event.HandsBlank (event : Event) : Prop :=
  ∃ text, event.tagText? = some text ∧ Text.isBlankText text = true

/-- An attempt that asks version control for its tag and gets a blank text. -/
def Attempt.GetsBlank (settings : Settings σ) (a : Attempt σ) : Prop :=
  ∃ query s text, .query query settings.context ∈ a.events ∧
    settings.provider.answer a.before query settings.context = (s, .ok text) ∧
    Text.isBlankText text = true

/-! ## Well-formed configurations -/

/-- A well-formed configuration has no blank tag. -/
theorem Config.tags_of_validate {config : Config} (h : config.validate = .ok ()) :
    ∀ s ∈ config.sections, ∀ tag ∈ s.tags, Text.isBlankText tag.text = false := by
  intro s hs tag htag
  have hsound := (validate_eq_ok_iff.1 h).sections.sound s hs
  exact Text.isVisible_iff.1 (hsound.tags tag htag)

/-- The tag specs of the steps of a section are its tags. -/
theorem Compiler.mem_tags_of_mem_steps {skipPush : Bool} {uuid : String} {s : Section}
    {step : ImageStep} {spec : TagSpec} (hstep : step ∈ steps skipPush uuid s)
    (hspec : step.spec? = some spec) : spec ∈ s.tags := by
  unfold steps at hstep
  rcases List.mem_cons.1 hstep with rfl | hstep
  · cases hspec
  · rcases List.mem_append.1 hstep with hstep | hstep
    · obtain ⟨tag, htag, rfl⟩ := List.mem_map.1 hstep
      cases hspec
      exact htag
    · split at hstep
      · cases hstep
      · obtain ⟨tag, htag, rfl⟩ := List.mem_map.1 hstep
        cases hspec
        exact htag

/-- No step of the plan of a well-formed configuration has a blank literal tag. -/
theorem Compiler.spec_of_compile {c : Compiler} {draw : Nat → String} {used : Nat}
    {config : Config} {plans : Plan} (hplans : (c.compile draw used config).1 = .ok plans)
    {plan : SectionPlan} (hplan : plan ∈ plans) {step : ImageStep} (hstep : step ∈ plan.steps)
    {spec : TagSpec} (hspec : step.spec? = some spec) : Text.isBlankText spec.text = false := by
  have hcompile : c.compile draw used config = (.ok plans, (c.compile draw used config).2) :=
    Prod.ext hplans rfl
  obtain ⟨hvalid, hsections⟩ := eq_planSections_of_compile hcompile
  obtain rfl : _ = plans := congrArg Prod.fst hsections
  obtain ⟨s, hs, uuid, rfl⟩ := exists_of_mem_planSections hplan
  exact Config.tags_of_validate hvalid s hs spec (mem_tags_of_mem_steps hstep hspec)

/-! ## Attempts -/

/-- A request is blank exactly if it hands over a blank answer, where no literal tag is blank. -/
theorem Asks.handsBlank_iff {image : Option String} {a : Attempt σ}
    (h : Asks settings image a.step a.before a.events)
    (hspec : ∀ spec, a.step.spec? = some spec → Text.isBlankText spec.text = false) :
    (∃ call ∈ a.events, call.HandsBlank) ↔ a.GetsBlank settings := by
  obtain ⟨step, s, events, s', result⟩ := a
  dsimp only at h hspec
  unfold Attempt.GetsBlank
  cases h with
  | omitted => simp
  | build => simp [Event.HandsBlank, Event.tagText?]
  | literal hmade hcall =>
    rename_i text call
    obtain ⟨hliteral, htext, hnone⟩ := hcall.event
    have hsome : Text.isBlankText text = false := hspec _ hliteral
    refine iff_of_false ?_ ?_
    · rintro ⟨_, hmem, text', htext', hblank⟩
      obtain rfl := List.mem_singleton.1 hmem
      rw [htext, Option.some.injEq] at htext'
      subst htext'
      rw [hsome] at hblank
      cases hblank
    · rintro ⟨query, _, _, hmem, -⟩
      obtain rfl := List.mem_singleton.1 hmem
      cases hnone
  | answered hmade hcall hquery hanswer =>
    rename_i spec query s₁ text call
    obtain ⟨-, htext, hnone⟩ := hcall.event
    -- the text that is handed over is the answer, so one is blank if the other is
    constructor
    · rintro ⟨_, hmem, text', htext', hblank⟩
      rcases List.mem_cons.1 hmem with rfl | hmem
      · cases htext'
      · obtain rfl := List.mem_singleton.1 hmem
        rw [htext, Option.some.injEq] at htext'
        subst htext'
        exact ⟨query, s₁, text, List.mem_cons_self, hanswer, hblank⟩
    · rintro ⟨query', _, text', hmem, hanswer', hblank⟩
      rcases List.mem_cons.1 hmem with hmem | hmem
      · cases hmem
        rw [hanswer] at hanswer'
        cases hanswer'
        exact ⟨call, by simp, text, htext, hblank⟩
      · obtain rfl := List.mem_singleton.1 hmem
        cases hnone

theorem Unanswered.handsBlank_iff {a : Attempt σ} {e : BuildError}
    (h : Unanswered settings a.step a.before a.events e) :
    (∃ call ∈ a.events, call.HandsBlank) ↔ a.GetsBlank settings := by
  obtain ⟨step, s, events, s', result⟩ := a
  dsimp only at h
  cases h with
  | intro hspec hquery hanswer =>
    refine iff_of_false ?_ ?_
    · rintro ⟨_, hmem, _, htext, -⟩
      obtain rfl := List.mem_singleton.1 hmem
      cases htext
    · rintro ⟨_, _, _, hmem, hanswer', -⟩
      cases List.mem_singleton.1 hmem
      rw [hanswer] at hanswer'
      cases hanswer'

theorem Reclaim.not_handsBlank {uuid : String} {s s' : σ} {events : List Event}
    (h : Reclaim settings uuid s events s') : ∀ event ∈ events, ¬ event.HandsBlank := by
  rintro event hmem ⟨text, htext, -⟩
  cases h with
  | unattached => cases hmem
  | nothing =>
    obtain rfl := List.mem_singleton.1 hmem
    cases htext
  | removed =>
    rcases List.mem_cons.1 hmem with rfl | hmem
    · cases htext
    · obtain rfl := List.mem_singleton.1 hmem
      cases htext

/-- A query alone is one that is not answered, and the error of its step says so. -/
theorem Unanswered.result_eq {context : BuildDir} {image : Option String} {a : Attempt σ}
    {e : BuildError} (h : Unanswered settings a.step a.before a.events e)
    (hstep : StepRun settings context image a.step a.before a.events a.after a.result) :
    a.result = .error e := by
  obtain ⟨step, s, events, s', result⟩ := a
  dsimp only at h hstep ⊢
  cases h with
  | intro hspec hquery hanswer =>
    rcases hstep.asks with ⟨hasks, -⟩ | ⟨-, e', hlast, rfl⟩
    · cases hasks with
      | literal _ hcall => cases hcall
    · cases hlast with
      | intro hspec' hquery' hanswer' =>
        rw [hspec, Option.some.injEq] at hspec'
        subst hspec'
        rw [hanswer] at hanswer'
        cases hanswer'
        rfl

theorem Unanswered.isVersionControl {step : ImageStep} {s : σ} {events : List Event}
    {e : BuildError} (h : Unanswered settings step s events e) : e.isVersionControl = true := by
  cases h with
  | intro => rfl

/-! ## Runs -/

theorem SectionTrace.handsBlank_iff {t : SectionTrace σ}
    (hattempts : ∀ a ∈ t.attempts, (∃ call ∈ a.events, call.HandsBlank) ↔ a.GetsBlank settings)
    (hcleanup : ∀ event ∈ t.cleanup, ¬ event.HandsBlank) :
    (∃ event ∈ t.events, event.HandsBlank) ↔ ∃ a ∈ t.attempts, a.GetsBlank settings := by
  constructor
  · rintro ⟨event, hmem, hblank⟩
    rcases List.mem_append.1 hmem with hmem | hmem
    · obtain ⟨a, ha, hevent⟩ := List.mem_flatMap.1 hmem
      exact ⟨a, ha, (hattempts a ha).1 ⟨event, hevent, hblank⟩⟩
    · exact absurd hblank (hcleanup event hmem)
  · rintro ⟨a, ha, hgets⟩
    obtain ⟨event, hevent, hblank⟩ := (hattempts a ha).2 hgets
    exact ⟨event, List.mem_append_left _ (List.mem_flatMap.2 ⟨a, ha, hevent⟩), hblank⟩

/-- A section that is part of a run of a well-formed configuration. -/
theorem Traced.handsBlank_iff {c : Compiler} {draw : Nat → String} {used : Nat} {config : Config}
    {plans : Plan} (hplans : (c.compile draw used config).1 = .ok plans)
    {traces : List (SectionTrace σ)} {s s' : σ} {result : Except BuildError Unit}
    (h : Traced settings plans s traces s' result) {t : SectionTrace σ} (ht : t ∈ traces) :
    (∃ event ∈ t.events, event.HandsBlank) ↔ ∃ a ∈ t.attempts, a.GetsBlank settings := by
  obtain ⟨context, s₀, s₁, outcome, hsteps, -, hcleanup⟩ := h.section ht
  refine SectionTrace.handsBlank_iff ?_ ?_
  · intro a ha
    obtain ⟨before, later, hsplit⟩ := List.append_of_mem ha
    obtain ⟨hstep, -, -⟩ := hsteps.attempt hsplit
    rcases hstep.asks with ⟨hasks, -⟩ | ⟨-, e, hlast, -⟩
    · refine hasks.handsBlank_iff fun spec hspec => ?_
      have hplan : t.plan ∈ plans := h.plans.1.subset (List.mem_map_of_mem ht)
      have hmem : a.step ∈ t.plan.steps := hsteps.steps_prefix.subset (List.mem_map_of_mem ha)
      exact Compiler.spec_of_compile hplans hplan hmem hspec
    · exact hlast.handsBlank_iff
  · rcases hcleanup with hnone | ⟨_, hreclaim⟩
    · rw [hnone]
      exact fun _ hmem => nomatch hmem
    · exact hreclaim.not_handsBlank

/-- A run of a well-formed configuration hands a blank tag to the backend exactly if version control
answers one of its queries with a blank text; a query that is not answered ends the run with an
error of version control. -/
theorem blankTag_iff_of_runPlan (settings : Settings σ) (c : Compiler) (draw : Nat → String)
    (used : Nat) (config : Config) (plans : Plan)
    (hplans : (c.compile draw used config).1 = .ok plans) (b : Builder) (w : World σ) :
    ∃ traces, Traced settings plans w.service traces (b.runPlan settings w plans).2.1.service
        (b.runPlan settings w plans).2.2 ∧
      (b.runPlan settings w plans).2.1.events = w.events ++ traces.flatMap (·.events) ∧
      ((∃ event ∈ traces.flatMap (·.events), event.HandsBlank) ↔
        ∃ t ∈ traces, ∃ a ∈ t.attempts, a.GetsBlank settings) ∧
      ∀ t ∈ traces, ∀ a ∈ t.attempts, ∀ e, Unanswered settings a.step a.before a.events e →
        (b.runPlan settings w plans).2.2 = .error e ∧ e.isVersionControl = true := by
  obtain ⟨traces, htraced, hevents⟩ := Builder.traced_of_runPlan settings b w plans
  refine ⟨traces, htraced, hevents, ?_, ?_⟩
  · simp only [List.mem_flatMap]
    constructor
    · rintro ⟨event, ⟨t, ht, hmem⟩, hblank⟩
      exact ⟨t, ht, (htraced.handsBlank_iff hplans ht).1 ⟨event, hmem, hblank⟩⟩
    · rintro ⟨t, ht, hgets⟩
      obtain ⟨event, hmem, hblank⟩ := (htraced.handsBlank_iff hplans ht).2 hgets
      exact ⟨event, ⟨t, ht, hmem⟩, hblank⟩
  · intro t ht a ha e hlast
    obtain ⟨context, s₀, s₁, outcome, hsteps, -, -⟩ := htraced.section ht
    obtain ⟨before, later, hsplit⟩ := List.append_of_mem ha
    have hresult := hlast.result_eq (hsteps.attempt hsplit).1
    exact ⟨htraced.error_of_not_tolerated ht hsplit hresult (hlast.not_tolerated before),
      hlast.isVersionControl⟩

/-- The settings of `Settings.obliging` with an empty branch. -/
def Settings.onEmptyBranch : Settings Unit :=
  { Settings.obliging with provider := FixedAnswers.provider ⟨some "", none, none⟩ }

/-- A configuration with one symbolic tag. -/
def Config.onBranch : Config := .ofSections [⟨"app", "Dockerfile", "", "app", [.branch], false⟩]

/-- The plan of `Config.onBranch` under the identifier `u`. -/
def SectionPlan.onBranch : Plan :=
  [⟨"app", "Dockerfile", "u", [.build "app:u", .tag "app" .branch, .push "app" .branch]⟩]

theorem blankTag_iff_of_runPlan_onBranch :
    ((Compiler.mk (.fixed "u") false).compile (fun _ => "") 0 .onBranch).1 =
        .ok SectionPlan.onBranch ∧
      ∃ traces : List (SectionTrace Unit),
        (Builder.new.runPlan .onEmptyBranch .linked SectionPlan.onBranch).2.1.events =
            traces.flatMap (·.events) ∧
          ∃ t ∈ traces, ∃ a ∈ t.attempts, a.GetsBlank .onEmptyBranch := by
  have hcompile : ((Compiler.mk (.fixed "u") false).compile (fun _ => "") 0 .onBranch).1 =
      .ok SectionPlan.onBranch := by decide +kernel
  obtain ⟨traces, -, hevents, hblank, -⟩ :=
    blankTag_iff_of_runPlan .onEmptyBranch _ _ _ _ _ hcompile .new .linked
  refine ⟨hcompile, traces, hevents, hblank.1 ?_⟩
  have htagged : ((Builder.new.runPlan .onEmptyBranch .linked
      SectionPlan.onBranch).2.1.events.any fun event => event.tagText? == some "") = true := by
    decide +kernel
  obtain ⟨event, hmem, htext⟩ := List.any_eq_true.1 htagged
  rw [hevents] at hmem
  exact ⟨event, hmem, "", by simpa using htext, rfl⟩

/-- An empty branch is tagged and pushed, and the run succeeds. -/
theorem empty_branch_tagged :
    Config.onBranch.validate = .ok () ∧
      ((Compiler.mk (.fixed "u") false).compile (fun _ => "") 0 .onBranch).1 =
        .ok SectionPlan.onBranch ∧
      (Builder.new.runPlan .onEmptyBranch .linked SectionPlan.onBranch).2.2.isOk = true ∧
      ((Builder.new.runPlan .onEmptyBranch .linked SectionPlan.onBranch).2.1.events.filterMap
        Event.tagText?) = ["", ""] := by
  decide +kernel

end ImageBuild
