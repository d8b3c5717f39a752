import Mathlib.Data.List.Forall2
import ImageBuild.Proofs.Builder.Isolation
import ImageBuild.Proofs.Builder.Reclaiming
import ImageBuild.Proofs.Builder.Traces
import ImageBuild.Proofs.Plan.Straight

/-!
# What is pushed

A section resolves each of its tags twice, once to tag its image and once to push it. If version
control keeps to its answers, both times give the same text (`TagSpec.given`), so a section pushes
what it tagged, in the same order and as far as it comes; and as the first error ends a section, it
pushes nothing before everything is tagged (`PushesTagged`). This holds of every section of a run
(`pushed_of_runPlan`).
-/

namespace ImageBuild

variable {σ : Type} {settings : Settings σ} {context : BuildDir}
  {answers : Query → Except Frames String}

/-! ## Requests for tags -/

/-- The repository and the tag of a request to tag an image. -/
def Event.tagged? : Event → Option (String × String)
  | .tag _ repository text => some (repository, text)
  | _ => none

/-- The repository and the tag of a request to push. -/
def Event.pushed? : Event → Option (String × String)
  | .push repository text => some (repository, text)
  | _ => none

/-- What was tagged for a section, in order. -/
def SectionTrace.tagged (t : SectionTrace σ) : List (String × String) :=
  t.events.filterMap Event.tagged?

/-- What was pushed for a section, in order. -/
def SectionTrace.pushed (t : SectionTrace σ) : List (String × String) :=
  t.events.filterMap Event.pushed?

/-- What some attempts tagged, in order. -/
def taggedIn (attempts : List (Attempt σ)) : List (String × String) :=
  (attempts.flatMap (·.events)).filterMap Event.tagged?

/-- What some attempts pushed, in order. -/
def pushedIn (attempts : List (Attempt σ)) : List (String × String) :=
  (attempts.flatMap (·.events)).filterMap Event.pushed?

theorem taggedIn_cons (a : Attempt σ) (attempts : List (Attempt σ)) :
    taggedIn (a :: attempts) = a.events.filterMap Event.tagged? ++ taggedIn attempts := by
  simp [taggedIn]

theorem pushedIn_cons (a : Attempt σ) (attempts : List (Attempt σ)) :
    pushedIn (a :: attempts) = a.events.filterMap Event.pushed? ++ pushedIn attempts := by
  simp [pushedIn]

theorem pushedIn_append (attempts more : List (Attempt σ)) :
    pushedIn (attempts ++ more) = pushedIn attempts ++ pushedIn more := by
  simp [pushedIn]

theorem taggedIn_append (attempts more : List (Attempt σ)) :
    taggedIn (attempts ++ more) = taggedIn attempts ++ taggedIn more := by
  simp [taggedIn]

/-! ## Steady answers -/

/-- Version control gives the same answer to a query whenever some attempts ask it. -/
def Steady (settings : Settings σ) (answers : Query → Except Frames String)
    (attempts : List (Attempt σ)) : Prop :=
  ∀ a ∈ attempts, ∀ query root, .query query root ∈ a.events →
    (settings.provider.answer a.before query root).2 = answers query

/-- The text of a tag spec, if version control keeps to some answers. -/
def TagSpec.given (answers : Query → Except Frames String) (spec : TagSpec) : Except Frames String :=
  match spec.query? with
  | none => .ok spec.text
  | some query => answers query

theorem Steady.tail {a : Attempt σ} {attempts : List (Attempt σ)}
    (h : Steady settings answers (a :: attempts)) : Steady settings answers attempts :=
  fun x hx => h x (List.mem_cons_of_mem a hx)

theorem Steady.of_append {attempts more : List (Attempt σ)}
    (h : Steady settings answers (attempts ++ more)) : Steady settings answers more :=
  fun x hx => h x (List.mem_append_right attempts hx)

theorem TagSpec.Resolution.given {spec : TagSpec} {s s' : σ} {events : List Event} {text : String}
    (h : spec.Resolution settings s events s' (.ok text))
    (hsteady : ∀ query root, .query query root ∈ events →
      (settings.provider.answer s query root).2 = answers query) :
    spec.given answers = .ok text := by
  unfold TagSpec.given
  cases h with
  | literal => rfl
  | answered hquery hanswer =>
    have hkept := hsteady _ _ (List.mem_singleton.2 rfl)
    rw [hanswer] at hkept
    rw [hquery]
    exact hkept.symm

theorem TagSpec.Resolution.filterMap_events {spec : TagSpec} {s s' : σ} {events : List Event}
    {result : Except BuildError String} (h : spec.Resolution settings s events s' result) :
    events.filterMap Event.tagged? = [] ∧ events.filterMap Event.pushed? = [] := by
  cases h with
  | literal => exact ⟨rfl, rfl⟩
  | answered => exact ⟨rfl, rfl⟩
  | unanswered => exact ⟨rfl, rfl⟩

/-! ## Steps -/

theorem StepRun.of_build {image : Option String} {reference : String} {s s' : σ}
    {events : List Event} {result : Except BuildError (Option String)}
    (h : StepRun settings context image (.build reference) s events s' result) :
    events.filterMap Event.tagged? = [] ∧ events.filterMap Event.pushed? = [] := by
  cases h with
  | unattached => exact ⟨rfl, rfl⟩
  | built => exact ⟨rfl, rfl⟩
  | notBuilt => exact ⟨rfl, rfl⟩

theorem StepRun.of_tag {image : Option String} {repository : String} {spec : TagSpec} {s s' : σ}
    {events : List Event} {result : Except BuildError (Option String)}
    (h : StepRun settings context image (.tag repository spec) s events s' result)
    (hsteady : ∀ query root, .query query root ∈ events →
      (settings.provider.answer s query root).2 = answers query) :
    events.filterMap Event.pushed? = [] ∧ ∀ image', result = .ok image' → image' = image ∧
      ∃ text, spec.given answers = .ok text ∧
        events.filterMap Event.tagged? = [(repository, text)] := by
  cases h with
  | unattached => exact ⟨rfl, nofun⟩
  | noImage => exact ⟨rfl, nofun⟩
  | tagUnresolved _ _ hspec => exact ⟨hspec.filterMap_events.2, nofun⟩
  | tagged _ himage hspec =>
    refine ⟨by simp [hspec.filterMap_events.2, Event.pushed?], ?_⟩
    rintro _ ⟨⟩
    refine ⟨himage.symm, _, hspec.given fun query root he => ?_, ?_⟩
    · exact hsteady query root (List.mem_append_left _ he)
    · simp [hspec.filterMap_events.1, Event.tagged?]
  | notTagged _ _ hspec => exact ⟨by simp [hspec.filterMap_events.2, Event.pushed?], nofun⟩

/-- What pushing some texts comes to, as far as pushing is not skipped. -/
def Settings.pushable (settings : Settings σ) (repository : String) (texts : List String) :
    List (String × String) :=
  if settings.skipPush then [] else texts.map (repository, ·)

theorem Settings.pushable_cons (settings : Settings σ) (repository text : String)
    (texts : List String) : settings.pushable repository (text :: texts) =
      settings.pushable repository [text] ++ settings.pushable repository texts := by
  unfold pushable
  split <;> rfl

theorem StepRun.of_push {image : Option String} {repository text : String} {spec : TagSpec}
    {s s' : σ} {events : List Event} {result : Except BuildError (Option String)}
    (h : StepRun settings context image (.push repository spec) s events s' result)
    (hsteady : ∀ query root, .query query root ∈ events →
      (settings.provider.answer s query root).2 = answers query)
    (htext : spec.given answers = .ok text) :
    events.filterMap Event.tagged? = [] ∧
      events.filterMap Event.pushed? <+: settings.pushable repository [text] ∧
      ∀ image', result = .ok image' →
        events.filterMap Event.pushed? = settings.pushable repository [text] := by
  -- the text that was resolved is the one that was given
  have hresolved : ∀ {s₁ : σ} {asked : List Event} {text' : String},
      spec.Resolution settings s asked s₁ (.ok text') →
      (∀ query root, .query query root ∈ asked → .query query root ∈ events) → text' = text := by
    intro s₁ asked text' hspec hasked
    have hgiven := hspec.given fun query root he => hsteady query root (hasked query root he)
    exact Except.ok.inj (hgiven.symm.trans htext)
  unfold Settings.pushable
  cases h with
  | unattached => exact ⟨rfl, List.nil_prefix, nofun⟩
  | pushSkipped _ hskip => exact ⟨rfl, List.nil_prefix, fun _ _ => by simp [hskip]⟩
  | pushUnresolved _ _ hspec =>
    obtain ⟨htagged, hpushed⟩ := hspec.filterMap_events
    exact ⟨htagged, hpushed ▸ List.nil_prefix, nofun⟩
  | pushed hskip _ hspec =>
    obtain ⟨htagged, hpushed⟩ := hspec.filterMap_events
    obtain rfl := hresolved hspec fun _ _ he => List.mem_append_left _ he
    exact ⟨by simp [htagged, Event.tagged?], by simp [hpushed, Event.pushed?, hskip],
      fun _ _ => by simp [hpushed, Event.pushed?, hskip]⟩
  | notPushed hskip _ hspec =>
    obtain ⟨htagged, hpushed⟩ := hspec.filterMap_events
    obtain rfl := hresolved hspec fun _ _ he => List.mem_append_left _ he
    exact ⟨by simp [htagged, Event.tagged?], by simp [hpushed, Event.pushed?, hskip], nofun⟩

/-! ## Sections -/

variable {image : Option String} {repository : String} {s s' : σ} {attempts : List (Attempt σ)}
  {result : Except BuildError (Option String)}

/-- The tags of a section end it with an error before anything is pushed, or all of them are given
and the rest of the steps is run. -/
theorem StraightRun.tags {specs : List TagSpec} {rest : List ImageStep}
    (h : StraightRun settings context image (specs.map (.tag repository) ++ rest) s attempts s'
      result) (hsteady : Steady settings answers attempts) :
    (pushedIn attempts = [] ∧ ∃ e, result = .error e) ∨
      ∃ (texts : List String) (before after : List (Attempt σ)) (s₁ : σ), attempts = before ++ after ∧
        specs.map (·.given answers) = texts.map .ok ∧
        taggedIn before = texts.map (repository, ·) ∧ pushedIn before = [] ∧
        StraightRun settings context image rest s₁ after s' result := by
  induction specs generalizing s attempts with
  | nil => exact Or.inr ⟨[], [], attempts, s, rfl, rfl, rfl, rfl, h⟩
  | cons spec specs ih =>
    rw [List.map_cons, List.cons_append] at h
    cases h with
    | stop hstep =>
      have hpushed := (hstep.of_tag fun q root => hsteady _ List.mem_cons_self q root).1
      exact Or.inl ⟨by simp [pushedIn, hpushed], _, rfl⟩
    | goOn hstep hrest =>
      obtain ⟨hpushed, hok⟩ := hstep.of_tag fun q root => hsteady _ List.mem_cons_self q root
      obtain ⟨rfl, text, htext, htagged⟩ := hok _ rfl
      rcases ih hrest hsteady.tail with ⟨hnone, he⟩ |
        ⟨texts, before, after, s₁, rfl, htexts, htags, hnone, hafter⟩
      · exact Or.inl ⟨by rw [pushedIn_cons, hpushed, hnone]; rfl, he⟩
      · refine Or.inr ⟨text :: texts, _ :: before, after, s₁, rfl, ?_, ?_, ?_, hafter⟩
        · rw [List.map_cons, List.map_cons, htext, htexts]
        · rw [taggedIn_cons, htagged, htags]
          rfl
        · rw [pushedIn_cons, hpushed, hnone]
          rfl

/-- The pushes of a section push the texts that its tags are given, as far as they come. -/
theorem StraightRun.pushes {specs : List TagSpec} {texts : List String}
    (h : StraightRun settings context image (specs.map (.push repository)) s attempts s' result)
    (hsteady : Steady settings answers attempts)
    (htexts : specs.map (·.given answers) = texts.map .ok) :
    taggedIn attempts = [] ∧ pushedIn attempts <+: settings.pushable repository texts ∧
      ∀ image', result = .ok image' → pushedIn attempts = settings.pushable repository texts := by
  induction specs generalizing s attempts image texts with
  | nil =>
    cases h
    obtain rfl : texts = [] := by simpa using htexts.symm
    exact ⟨rfl, List.nil_prefix, fun _ _ => by simp [pushedIn, Settings.pushable]⟩
  | cons spec specs ih =>
    cases texts with
    | nil => cases htexts
    | cons text texts =>
      rw [List.map_cons, List.map_cons] at htexts
      obtain ⟨htext, hrest'⟩ := List.cons.inj htexts
      rw [Settings.pushable_cons]
      cases h with
      | stop hstep =>
        obtain ⟨htagged, hpushed, -⟩ :=
          hstep.of_push (fun q root => hsteady _ List.mem_cons_self q root) htext
        refine ⟨by simp [taggedIn, htagged], ?_, nofun⟩
        rw [pushedIn_cons]
        simpa [pushedIn] using hpushed.trans (List.prefix_append _ _)
      | goOn hstep hrest =>
        obtain ⟨htagged, -, hok⟩ :=
          hstep.of_push (fun q root => hsteady _ List.mem_cons_self q root) htext
        obtain ⟨htags, hpre, hall⟩ := ih hrest hsteady.tail hrest'
        have hpushed := hok _ rfl
        rw [taggedIn_cons, pushedIn_cons, htagged, htags, hpushed]
        refine ⟨rfl, List.prefix_append_right_inj _ |>.2 hpre, fun image' hresult => ?_⟩
        rw [hall image' hresult]

/-- What a section pushed is the beginning of what it tagged, and comes after that. -/
structure PushesTagged (s : Section) (t : SectionTrace σ) : Prop where
  pushed : t.pushed <+: t.tagged
  /-- When something is pushed, the image was built and all tags were given to it. -/
  after : ∀ before a later repository text, t.attempts = before ++ a :: later →
    .push repository text ∈ a.events →
      (∃ reference, .build reference :: s.tags.map (.tag s.repository) <+: before.map (·.step)) ∧
        ∀ x ∈ before, ∃ image, x.result = .ok image
  /-- The tags were given to the image that the section built. -/
  own : ∀ id repository text, .tag id repository text ∈ t.events →
    ∃ a later reference, t.attempts = a :: later ∧ a.step = .build reference ∧
      a.result = .ok (some id)

/-- The tags of a section are for the image that its first step builds. -/
theorem StraightRun.own {reference : String} {steps : List ImageStep}
    (h : StraightRun settings context none (.build reference :: steps) s attempts s' result)
    (hsteps : ∀ reference, .build reference ∉ steps) {id repository text : String}
    (he : .tag id repository text ∈ attempts.flatMap (·.events)) :
    ∃ a later, attempts = a :: later ∧ a.step = .build reference ∧ a.result = .ok (some id) := by
  cases h with
  | stop hstep =>
    rw [List.flatMap_singleton] at he
    cases hstep.image_eq_of_mem he
  | goOn hstep hrest =>
    rw [List.flatMap_cons] at he
    rcases List.mem_append.1 he with he | he
    · cases hstep.image_eq_of_mem he
    · obtain rfl := hrest.image_eq_of_mem hsteps he
      exact ⟨_, _, rfl, rfl, rfl⟩

/-- Where something is pushed, the steps before the first push have been attempted. -/
theorem SectionRun.prefix_of_push {steps pushes : List ImageStep}
    (h : SectionRun settings context [] (steps ++ pushes) s attempts s' result)
    (hsteps : ∀ repository spec, .push repository spec ∉ steps) {before later : List (Attempt σ)}
    {a : Attempt σ} (hsplit : attempts = before ++ a :: later) {repository text : String}
    (he : .push repository text ∈ a.events) : steps <+: before.map (·.step) := by
  -- the attempt is made at a push, which is not among those steps
  obtain ⟨spec, hstep⟩ : ∃ spec, a.step = .push repository spec := by
    rcases (h.attempt hsplit).1.event_cases he with ⟨_, he⟩ | ⟨_, -, he⟩ | ⟨_, _, _, _, -, -, he⟩ |
      ⟨_, spec, _, hstep, he⟩
    · cases he
    · cases he
    · cases he
    · cases he
      exact ⟨spec, hstep⟩
  have hpre : before.map (·.step) ++ [a.step] <+: steps ++ pushes := by
    refine List.IsPrefix.trans ?_ h.steps_prefix
    rw [hsplit, List.map_append, List.map_cons]
    exact ⟨later.map (·.step), by simp⟩
  rcases List.prefix_or_prefix_of_prefix hpre (List.prefix_append steps pushes) with hshort | hlong
  · have hmem : a.step ∈ steps := hshort.subset (by simp)
    exact absurd (hstep ▸ hmem) (hsteps repository spec)
  · rcases List.prefix_concat_iff.1 hlong with hall | hbefore
    · have hmem : a.step ∈ steps := by rw [hall]; simp
      exact absurd (hstep ▸ hmem) (hsteps repository spec)
    · exact hbefore

theorem Reclaim.filterMap_eq_nil {uuid : String} {cleanup : List Event}
    (h : Reclaim settings uuid s cleanup s') :
    cleanup.filterMap Event.tagged? = [] ∧ cleanup.filterMap Event.pushed? = [] := by
  cases h with
  | unattached => exact ⟨rfl, rfl⟩
  | nothing => exact ⟨rfl, rfl⟩
  | removed => exact ⟨rfl, rfl⟩

theorem StraightRun.pushedIn_prefix {planSkips : Bool} {uuid : String} {c : Section}
    (h : StraightRun settings context image (Compiler.steps planSkips uuid c) s attempts s' result)
    (hsteady : Steady settings answers attempts) :
    pushedIn attempts <+: taggedIn attempts ∧
      (c.isPushed planSkips settings.skipPush = true → ∀ image', result = .ok image' →
        pushedIn attempts = taggedIn attempts) := by
  unfold Compiler.steps at h
  cases h with
  | stop hstep =>
    obtain ⟨-, hpushed⟩ := hstep.of_build
    rw [pushedIn_cons, hpushed]
    exact ⟨List.nil_prefix, fun _ => nofun⟩
  | goOn hstep hrest =>
    obtain ⟨htagged, hpushed⟩ := hstep.of_build
    rw [pushedIn_cons, taggedIn_cons, htagged, hpushed, List.nil_append, List.nil_append]
    rcases hrest.tags hsteady.tail with ⟨hnone, e, rfl⟩ |
      ⟨texts, before, after, s₁, rfl, htexts, htags, hnone, hafter⟩
    · exact ⟨hnone ▸ List.nil_prefix, fun _ => nofun⟩
    · rw [pushedIn_append, taggedIn_append, htags, hnone, List.nil_append]
      by_cases hskip : (c.skipPush || planSkips) = true
      · -- the plan has no pushes for this section
        rw [if_pos hskip] at hafter
        cases hafter
        exact ⟨List.nil_prefix, fun hyes => by simp [Section.isPushed, hskip] at hyes⟩
      · rw [if_neg hskip] at hafter
        obtain ⟨hnotags, hpre, hall⟩ := hafter.pushes hsteady.tail.of_append htexts
        rw [hnotags, List.append_nil]
        refine ⟨hpre.trans ?_, fun hyes image' hresult => ?_⟩
        · unfold Settings.pushable
          split
          · exact List.nil_prefix
          · exact List.prefix_rfl
        · have hrun : settings.skipPush = false := by
            simp only [Section.isPushed, Bool.not_eq_true', Bool.or_eq_false_iff] at hyes
            exact hyes.2
          rw [hall image' hresult, Settings.pushable, hrun]
          rfl

/-- A section pushes what it tagged, and all of it if it is pushed and comes to its end. -/
theorem SectionRun.pushesTagged {backend : Backend σ} (hbackend : settings.backend = some backend)
    (hconf : backend.IsConfigured) {planSkips : Bool} {uuid : String} {c : Section}
    {t : SectionTrace σ}
    (h : SectionRun settings context [] (Compiler.steps planSkips uuid c) s t.attempts s' result)
    (hsteady : Steady settings answers t.attempts)
    (hcleanup : t.cleanup = [] ∨ ∃ s'', Reclaim settings uuid s' t.cleanup s'') :
    PushesTagged c t ∧ (c.isPushed planSkips settings.skipPush = true →
      ∀ image, result = .ok image → t.pushed = t.tagged) := by
  have hstraight := h.straight hbackend hconf rfl
  obtain ⟨hpre, hall⟩ := hstraight.pushedIn_prefix hsteady
  obtain ⟨hnotags, hnopushes⟩ : t.cleanup.filterMap Event.tagged? = [] ∧
      t.cleanup.filterMap Event.pushed? = [] := by
    rcases hcleanup with hnone | ⟨_, hreclaim⟩
    · rw [hnone]
      exact ⟨rfl, rfl⟩
    · exact hreclaim.filterMap_eq_nil
  have htagged : t.tagged = taggedIn t.attempts := by
    simp [SectionTrace.tagged, SectionTrace.events, taggedIn, hnotags]
  have hpushed : t.pushed = pushedIn t.attempts := by
    simp [SectionTrace.pushed, SectionTrace.events, pushedIn, hnopushes]
  rw [← htagged, ← hpushed] at hpre hall
  refine ⟨⟨hpre, ?_, ?_⟩, hall⟩
  · intro before a later repository text hsplit he
    refine ⟨⟨c.repository ++ ":" ++ uuid, ?_⟩, hstraight.ok_of_append hsplit⟩
    refine h.prefix_of_push ?_ hsplit he
    simp
  · intro id repository text he
    rcases List.mem_append.1 he with he | he
    · obtain ⟨a, later, hsplit, hstep, hresult⟩ := hstraight.own (by simp) he
      exact ⟨a, later, _, hsplit, hstep, hresult⟩
    · cases List.filterMap_eq_nil_iff.1 hnotags _ he

/-! ## Runs -/

/-- In the run of the plan of some sections, every section pushes what it tagged. -/
theorem Traced.pushesTagged {backend : Backend σ} (hbackend : settings.backend = some backend)
    (hconf : backend.IsConfigured) (c : Compiler) (draw : Nat → String) (used : Nat)
    (sections : List Section) {traces : List (SectionTrace σ)} {result : Except BuildError Unit}
    (h : Traced settings (c.planSections draw used sections).1 s traces s' result)
    (hsteady : ∀ t ∈ traces, Steady settings answers t.attempts) :
    ∃ reached, reached <+: sections ∧ (result = .ok () → reached = sections) ∧
      List.Forall₂ (fun part t => (∃ uuid, t.plan = Compiler.planSection c.skipPush uuid part) ∧
        PushesTagged part t ∧ (result = .ok () →
          part.isPushed c.skipPush settings.skipPush = true → t.pushed = t.tagged))
        reached traces := by
  induction sections generalizing used s traces with
  | nil =>
    cases h
    exact ⟨[], List.nil_prefix, fun _ => rfl, .nil⟩
  | cons part rest ih =>
    rw [Compiler.planSections_cons] at h
    cases h with
    | unprepared => exact ⟨[], List.nil_prefix, nofun, .nil⟩
    | failed hsteps =>
      have hhere := hsteady _ List.mem_cons_self
      obtain ⟨hpushes, -⟩ := hsteps.pushesTagged hbackend hconf hhere (Or.inl rfl)
      exact ⟨[part], by simp, nofun, .cons ⟨⟨_, rfl⟩, hpushes, nofun⟩ .nil⟩
    | cons hsteps hreclaim hrest =>
      have hhere := hsteady _ List.mem_cons_self
      obtain ⟨hpushes, hall⟩ := hsteps.pushesTagged hbackend hconf hhere (Or.inr ⟨_, hreclaim⟩)
      obtain ⟨reached, hreached, hok, hforall⟩ :=
        ih _ hrest fun t ht => hsteady t (List.mem_cons_of_mem _ ht)
      refine ⟨part :: reached, by simpa using hreached, fun h => by rw [hok h], ?_⟩
      exact .cons ⟨⟨_, rfl⟩, hpushes, fun _ hyes => hall hyes _ rfl⟩ hforall

/-- Only what was tagged is pushed: in a run of the plan of a configuration, every section that is
come to pushes the beginning of what it tagged on its own image, after it tagged all of it. If the run
succeeds, every section that is pushed pushes all it tagged. -/
theorem pushed_of_runPlan (settings : Settings σ) (backend : Backend σ)
    (hbackend : settings.backend = some backend) (hconf : backend.IsConfigured) (c : Compiler)
    (draw : Nat → String) (used : Nat) (config : Config) (plans : Plan)
    (hplans : (c.compile draw used config).1 = .ok plans) (b : Builder) (w : World σ) :
    ∃ traces, Traced settings plans w.service traces (b.runPlan settings w plans).2.1.service
        (b.runPlan settings w plans).2.2 ∧
      (b.runPlan settings w plans).2.1.events = w.events ++ traces.flatMap (·.events) ∧
      ∀ answers, (∀ t ∈ traces, Steady settings answers t.attempts) →
        ∃ reached, reached <+: config.sections ∧
          ((b.runPlan settings w plans).2.2 = .ok () → reached = config.sections) ∧
          List.Forall₂ (fun part t =>
            (∃ uuid, t.plan = Compiler.planSection c.skipPush uuid part) ∧ PushesTagged part t ∧
              ((b.runPlan settings w plans).2.2 = .ok () →
                part.isPushed c.skipPush settings.skipPush = true → t.pushed = t.tagged))
            reached traces := by
  have hcompile : c.compile draw used config = (.ok plans, (c.compile draw used config).2) :=
    Prod.ext hplans rfl
  obtain ⟨-, hsections⟩ := Compiler.eq_planSections_of_compile hcompile
  obtain rfl : _ = plans := congrArg Prod.fst hsections
  obtain ⟨traces, htraced, hevents⟩ := Builder.traced_of_runPlan settings b w _
  exact ⟨traces, htraced, hevents, fun answers hsteady =>
    htraced.pushesTagged hbackend hconf c draw used config.sections hsteady⟩

/-- The settings of `Settings.obliging` with a branch. -/
def Settings.onBranch : Settings Unit :=
  { Settings.obliging with provider := FixedAnswers.provider ⟨some "main", none, none⟩ }

theorem pushed_of_runPlan_shared :
    Backend.obliging.IsConfigured ∧
      ((Compiler.mk (.fixed "u") false).compile (fun _ => "") 0 .shared).1 = .ok SectionPlan.shared ∧
      ∃ traces : List (SectionTrace Unit),
        (Builder.new.runPlan .onBranch .linked SectionPlan.shared).2.1.events =
            traces.flatMap (·.events) ∧
          List.Forall₂ (fun part t => PushesTagged part t ∧
            (part.isPushed false false = true → t.pushed = t.tagged))
            Config.shared.sections traces := by
  have hconf : Backend.obliging.IsConfigured := ⟨fun _ _ _ => nofun, fun _ _ _ _ => nofun,
    fun _ _ _ => nofun⟩
  have hcompile : ((Compiler.mk (.fixed "u") false).compile (fun _ => "") 0 .shared).1 =
      .ok SectionPlan.shared := by decide +kernel
  have hdone : (Builder.new.runPlan .onBranch .linked SectionPlan.shared).2.2.isOk = true := by
    decide +kernel
  have hok : (Builder.new.runPlan .onBranch .linked SectionPlan.shared).2.2 = .ok () := by
    cases hresult : (Builder.new.runPlan .onBranch .linked SectionPlan.shared).2.2 with
    | error e =>
      rw [hresult] at hdone
      cases hdone
    | ok _ => rfl
  obtain ⟨traces, -, hevents, hsteady⟩ := pushed_of_runPlan .onBranch .obliging rfl hconf _ _ _ _ _
    hcompile .new .linked
  obtain ⟨reached, -, hall, hpushes⟩ := hsteady
    (fun query => (Settings.onBranch.provider.answer () query "").2) fun t ht a ha query root he => by
      cases query <;> rfl
  rw [hall hok] at hpushes
  refine ⟨hconf, hcompile, traces, hevents, hpushes.imp ?_⟩
  exact fun part t ⟨_, htagged, hpushed⟩ => ⟨htagged, hpushed hok⟩

end ImageBuild
