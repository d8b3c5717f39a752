import ImageBuild.Proofs.Builder.Traces

/-!
# Queries to version control

A step with a symbolic tag asks version control right before it hands the answer to the backend, and
no other step asks anything (`StepRun.asks`). So the queries of a run are those for the tags that
reached the backend, in their order, and a query that is not answered is the last request of its run
and gives the error of the run (`queries_of_runPlan`).
-/

namespace ImageBuild

variable {σ : Type} {settings : Settings σ} {context : BuildDir} {image : Option String}

/-- The query of a request and the directory that it is about. -/
def Event.query? : Event → Option (Query × String)
  | .query q root => some (q, root)
  | _ => none

theorem Event.query?_query (q : Query) (root : String) :
    (Event.query q root).query? = some (q, root) :=
  rfl

/-- The tag that a request hands to the backend. -/
def Event.tagText? : Event → Option String
  | .tag _ _ text => some text
  | .push _ text => some text
  | _ => none

/-- The tag spec of a step. -/
def ImageStep.spec? : ImageStep → Option TagSpec
  | .build _ => none
  | .tag _ spec => some spec
  | .push _ spec => some spec

/-- An error of version control. -/
def BuildError.isVersionControl : BuildError → Bool
  | .versionControl _ _ => true
  | _ => false

/-! ## What a step asks for -/

/-- Why a step that is given an image asks for nothing. -/
inductive ImageStep.Omitted (settings : Settings σ) (image : Option String) : ImageStep → Prop
  | unattached {step : ImageStep} (hbackend : settings.backend = none) :
      Omitted settings image step
  | imageless {repository : String} {spec : TagSpec} (himage : image = none) :
      Omitted settings image (.tag repository spec)
  | pushSkipped {repository : String} {spec : TagSpec} (hskip : settings.skipPush = true) :
      Omitted settings image (.push repository spec)

/-- The request of a step that hands a text to the backend in place of its tag spec. -/
inductive ImageStep.Hands (image : Option String) : ImageStep → TagSpec → String → Event → Prop
  | tag {id repository text : String} {spec : TagSpec} (himage : image = some id) :
      Hands image (.tag repository spec) spec text (.tag id repository text)
  | push {repository text : String} {spec : TagSpec} :
      Hands image (.push repository spec) spec text (.push repository text)

/-- The requests of a step that is given an image and begins in a state of the services: none if it
is omitted, a build, a literal tag as it is, or the answer of version control right after the query
for it, which is about the context. -/
inductive Asks (settings : Settings σ) (image : Option String) (step : ImageStep) (s : σ) :
    List Event → Prop
  | omitted (homitted : step.Omitted settings image) : Asks settings image step s []
  | build {dir : BuildDir} {reference : String} (hmade : ¬ step.Omitted settings image)
      (hstep : step = .build reference) : Asks settings image step s [.build dir reference]
  | literal {text : String} {call : Event} (hmade : ¬ step.Omitted settings image)
      (hcall : step.Hands image (.literal text) text call) : Asks settings image step s [call]
  | answered {spec : TagSpec} {query : Query} {s' : σ} {text : String} {call : Event}
      (hmade : ¬ step.Omitted settings image) (hcall : step.Hands image spec text call)
      (hquery : spec.query? = some query)
      (hanswer : settings.provider.answer s query settings.context = (s', .ok text)) :
      Asks settings image step s [.query query settings.context, call]

/-- A step whose only request is a query about the context that is not answered, and its error. -/
inductive Unanswered (settings : Settings σ) (step : ImageStep) (s : σ) :
    List Event → BuildError → Prop
  | intro {spec : TagSpec} {query : Query} {s' : σ} {frames : Frames}
      (hspec : step.spec? = some spec) (hquery : spec.query? = some query)
      (hanswer : settings.provider.answer s query settings.context = (s', .error frames)) :
      Unanswered settings step s [.query query settings.context]
        (.versionControl spec.text frames)

namespace ImageStep

variable {backend : Backend σ} {id reference repository : String} {spec : TagSpec}

theorem not_omitted_build (hbackend : settings.backend = some backend) :
    ¬ (build reference).Omitted settings image := by
  rintro ⟨hnone⟩
  rw [hbackend] at hnone
  cases hnone

theorem not_omitted_tag (hbackend : settings.backend = some backend) (himage : image = some id) :
    ¬ (tag repository spec).Omitted settings image := by
  intro h
  cases h with
  | unattached hnone =>
    rw [hbackend] at hnone
    cases hnone
  | imageless hnone =>
    rw [himage] at hnone
    cases hnone

theorem not_omitted_push (hbackend : settings.backend = some backend)
    (hskip : settings.skipPush = false) : ¬ (push repository spec).Omitted settings image := by
  intro h
  cases h with
  | unattached hnone =>
    rw [hbackend] at hnone
    cases hnone
  | pushSkipped hyes =>
    rw [hskip] at hyes
    cases hyes

end ImageStep

theorem BuildError.isVersionControl_ofBackend (operation : String) (fault : BackendFault) :
    (BuildError.ofBackend operation fault).isVersionControl = false := by
  cases fault <;> rfl

/-- A tag that is resolved is handed over right after the query for it, if there is one. -/
theorem TagSpec.Resolution.asks {step : ImageStep} {spec : TagSpec} {s s' : σ} {text : String}
    {events : List Event} {call : Event} (h : spec.Resolution settings s events s' (.ok text))
    (hmade : ¬ step.Omitted settings image) (hcall : step.Hands image spec text call) :
    Asks settings image step s (events ++ [call]) := by
  cases h with
  | literal => exact .literal hmade hcall
  | answered hquery hanswer => exact .answered hmade hcall hquery hanswer

theorem TagSpec.Resolution.isUnanswered {step : ImageStep} {spec : TagSpec} {s s' : σ}
    {events : List Event} {e : BuildError} (h : spec.Resolution settings s events s' (.error e))
    (hspec : step.spec? = some spec) : Unanswered settings step s events e := by
  cases h with
  | unanswered hquery hanswer => exact .intro hspec hquery hanswer

/-- A step asks version control for nothing but the tag that it hands to the backend next, unless
the query for it is not answered. -/
theorem StepRun.asks {step : ImageStep} {s s' : σ} {events : List Event}
    {result : Except BuildError (Option String)}
    (h : StepRun settings context image step s events s' result) :
    (Asks settings image step s events ∧ ∀ e, result = .error e → e.isVersionControl = false) ∨
      ¬ step.Omitted settings image ∧
        ∃ e, Unanswered settings step s events e ∧ result = .error e := by
  -- what a backend answers is no error of version control
  have hservice : ∀ (operation : String) (fault : BackendFault) (e : BuildError),
      (Except.error (.ofBackend operation fault) : Except BuildError (Option String)) = .error e →
        e.isVersionControl = false := by
    rintro operation fault _ ⟨⟩
    exact BuildError.isVersionControl_ofBackend operation fault
  cases h with
  | unattached _ hbackend => exact Or.inl ⟨.omitted (.unattached hbackend), by rintro _ ⟨⟩; rfl⟩
  | built hbackend =>
    exact Or.inl ⟨.build (ImageStep.not_omitted_build hbackend) rfl, nofun⟩
  | notBuilt hbackend =>
    exact Or.inl ⟨.build (ImageStep.not_omitted_build hbackend) rfl, hservice _ _⟩
  | noImage _ hbackend himage => exact Or.inl ⟨.omitted (.imageless himage), by rintro _ ⟨⟩; rfl⟩
  | tagUnresolved hbackend himage hspec =>
    exact Or.inr ⟨ImageStep.not_omitted_tag hbackend himage, _, hspec.isUnanswered rfl, rfl⟩
  | tagged hbackend himage hspec =>
    refine Or.inl ⟨hspec.asks ?_ (.tag himage), nofun⟩
    exact ImageStep.not_omitted_tag hbackend himage
  | notTagged hbackend himage hspec =>
    refine Or.inl ⟨hspec.asks ?_ (.tag himage), hservice _ _⟩
    exact ImageStep.not_omitted_tag hbackend himage
  | pushSkipped _ hskip => exact Or.inl ⟨.omitted (.pushSkipped hskip), nofun⟩
  | pushUnresolved hskip hbackend hspec =>
    exact Or.inr ⟨ImageStep.not_omitted_push hbackend hskip, _, hspec.isUnanswered rfl, rfl⟩
  | pushed hskip hbackend hspec =>
    refine Or.inl ⟨hspec.asks ?_ .push, nofun⟩
    exact ImageStep.not_omitted_push hbackend hskip
  | notPushed hskip hbackend hspec =>
    refine Or.inl ⟨hspec.asks ?_ .push, hservice _ _⟩
    exact ImageStep.not_omitted_push hbackend hskip

/-! ## Queries in order -/

/-- The query for the tag of an attempt that reached the backend with it. -/
def Attempt.answered? (a : Attempt σ) : Option Query :=
  if a.events.any fun event => event.tagText?.isSome then a.step.spec?.bind TagSpec.query? else none

/-- The queries for the tags of the attempts that reached the backend with them, in order. -/
def answeredIn (settings : Settings σ) (attempts : List (Attempt σ)) : List (Query × String) :=
  (attempts.filterMap Attempt.answered?).map (·, settings.context)

/-- The queries among the requests of some attempts. They are those for the tags that reached the
backend; one more that is not answered comes last and gives the result. -/
inductive QueriesMatch (settings : Settings σ) (attempts : List (Attempt σ)) (events : List Event)
    {α : Type} : Except BuildError α → Prop
  | answered {result : Except BuildError α}
      (hqueries : events.filterMap Event.query? = answeredIn settings attempts)
      (hresult : ∀ e, result = .error e → e.isVersionControl = false) :
      QueriesMatch settings attempts events result
  | unanswered {earlier : List (Attempt σ)} {a : Attempt σ} {before : List Event} {e : BuildError}
      (hattempts : attempts = earlier ++ [a]) (hevents : events = before ++ a.events)
      (hqueries : before.filterMap Event.query? = answeredIn settings earlier)
      (hlast : Unanswered settings a.step a.before a.events e) :
      QueriesMatch settings attempts events (.error e)

theorem answeredIn_append (attempts more : List (Attempt σ)) :
    answeredIn settings (attempts ++ more) =
      answeredIn settings attempts ++ answeredIn settings more := by
  simp [answeredIn]

theorem ImageStep.Hands.event {step : ImageStep} {spec : TagSpec} {text : String} {call : Event}
    (h : step.Hands image spec text call) :
    step.spec? = some spec ∧ call.tagText? = some text ∧ call.query? = none := by
  cases h with
  | tag => exact ⟨rfl, rfl, rfl⟩
  | push => exact ⟨rfl, rfl, rfl⟩

/-- The query of a step is the one for the tag that it hands to the backend. -/
theorem Asks.filterMap_events {step : ImageStep} {s s' : σ} {events : List Event}
    {result : Except BuildError (Option String)} (h : Asks settings image step s events) :
    events.filterMap Event.query? = answeredIn settings [⟨step, s, events, s', result⟩] := by
  cases h with
  | omitted => rfl
  | build => rfl
  | literal _ hcall =>
    obtain ⟨hspec, htext, hnone⟩ := hcall.event
    simp [answeredIn, Attempt.answered?, hspec, htext, hnone, TagSpec.query?]
  | answered _ hcall hquery =>
    obtain ⟨hspec, htext, hnone⟩ := hcall.event
    rw [List.filterMap_cons_some (Event.query?_query _ _)]
    simp [answeredIn, Attempt.answered?, hspec, htext, hnone, hquery]

/-- Attempts that are all answered, before others. -/
theorem QueriesMatch.append {α : Type} {attempts more : List (Attempt σ)}
    {events later : List Event} {result : Except BuildError α}
    (hqueries : events.filterMap Event.query? = answeredIn settings attempts)
    (h : QueriesMatch settings more later result) :
    QueriesMatch settings (attempts ++ more) (events ++ later) result := by
  cases h with
  | answered hmore hresult =>
    refine .answered ?_ hresult
    rw [List.filterMap_append, answeredIn_append, hqueries, hmore]
  | unanswered hattempts hevents hmore hlast =>
    rename_i earlier a before e
    have hearlier : (events ++ before).filterMap Event.query? =
        answeredIn settings (attempts ++ earlier) := by
      rw [List.filterMap_append, answeredIn_append, hqueries, hmore]
    refine .unanswered ?_ ?_ hearlier hlast
    · rw [hattempts, List.append_assoc]
    · rw [hevents, List.append_assoc]

/-- A step that is tolerated has no query that is not answered. -/
theorem Unanswered.not_tolerated {step : ImageStep} {s : σ} {events : List Event} {e : BuildError}
    (h : Unanswered settings step s events e) (earlier : List (Attempt σ)) :
    ¬ Tolerated earlier (.error e) := by
  cases h with
  | intro => exact id

/-- The queries of a section. -/
theorem SectionRun.queriesMatch {earlier attempts : List (Attempt σ)} {steps : List ImageStep}
    {s s' : σ} {result : Except BuildError (Option String)}
    (h : SectionRun settings context earlier steps s attempts s' result) :
    QueriesMatch settings attempts (attempts.flatMap (·.events)) result := by
  induction h with
  | done => exact .answered rfl nofun
  | goOn hstep hresult hrest ih =>
    rename_i earlier attempts step rest s s' s'' events result final
    have hfirst : events.filterMap Event.query? =
        answeredIn settings [⟨step, s, events, s', result⟩] := by
      -- a query that is not answered is never tolerated, so it comes in the last attempt only
      rcases hstep.asks with ⟨hasks, -⟩ | ⟨-, e, hlast, rfl⟩
      · exact hasks.filterMap_events
      · exact absurd hresult (hlast.not_tolerated earlier)
    exact ih.append hfirst
  | stop hstep hresult =>
    rw [List.flatMap_singleton]
    rcases hstep.asks with ⟨hasks, hother⟩ | ⟨-, e, hlast, he⟩
    · exact .answered hasks.filterMap_events fun e' he' => hother e' (by rw [Except.error.inj he'])
    · rw [Except.error.inj he]
      exact .unanswered (List.nil_append _).symm (List.nil_append _).symm rfl hlast

/-- Looking for an intermediate reference asks version control for nothing. -/
theorem Reclaim.filterMap_query {uuid : String} {s s' : σ} {events : List Event}
    (h : Reclaim settings uuid s events s') : events.filterMap Event.query? = [] := by
  cases h with
  | unattached => rfl
  | nothing => rfl
  | removed => rfl

theorem BuildError.isVersionControl_of_isPreparation {e : BuildError}
    (h : e.isPreparation = true) : e.isVersionControl = false := by
  cases e with
  | versionControl => cases h
  | _ => rfl

/-- A section that is run to its end has only queries that are answered. -/
theorem QueriesMatch.of_ok {α : Type} {attempts : List (Attempt σ)} {events : List Event} {x : α}
    (h : QueriesMatch settings attempts events (.ok x)) :
    events.filterMap Event.query? = answeredIn settings attempts := by
  cases h with
  | answered hqueries => exact hqueries

/-- An error ends a run of any type. -/
theorem QueriesMatch.of_error {α β : Type} {attempts : List (Attempt σ)} {events : List Event}
    {e : BuildError} (h : QueriesMatch settings attempts events (.error e : Except BuildError α)) :
    QueriesMatch settings attempts events (.error e : Except BuildError β) := by
  cases h with
  | answered hqueries hresult =>
    exact .answered hqueries fun e' he => hresult e' (by rw [Except.error.inj he])
  | unanswered hattempts hevents hqueries hlast =>
    exact .unanswered hattempts hevents hqueries hlast

/-- The queries of a run. -/
theorem Traced.queriesMatch {plans : Plan} {traces : List (SectionTrace σ)} {s s' : σ}
    {result : Except BuildError Unit} (h : Traced settings plans s traces s' result) :
    QueriesMatch settings (traces.flatMap (·.attempts)) (traces.flatMap (·.events)) result := by
  induction h with
  | nil => exact .answered rfl nofun
  | unprepared _ he =>
    refine .answered rfl ?_
    rintro _ ⟨⟩
    exact BuildError.isVersionControl_of_isPreparation he
  | failed hsteps =>
    simpa [SectionTrace.events] using hsteps.queriesMatch.of_error (β := Unit)
  | cons hsteps hreclaim hrest ih =>
    rw [List.flatMap_cons, List.flatMap_cons]
    refine ih.append ?_
    rw [SectionTrace.events, List.filterMap_append, hreclaim.filterMap_query, List.append_nil]
    exact hsteps.queriesMatch.of_ok

/-- An attempt that is not tolerated gives its result to the run. -/
theorem Traced.error_of_not_tolerated {plans : Plan} {traces : List (SectionTrace σ)} {s s' : σ}
    {result : Except BuildError Unit} (h : Traced settings plans s traces s' result)
    {t : SectionTrace σ} (ht : t ∈ traces) {before later : List (Attempt σ)} {a : Attempt σ}
    (ha : t.attempts = before ++ a :: later) {e : BuildError} (hresult : a.result = .error e)
    (hnot : ¬ Tolerated before (.error e)) : result = .error e := by
  induction h with
  | nil => cases ht
  | unprepared => cases ht
  | failed hsteps =>
    obtain rfl := List.mem_singleton.1 ht
    obtain ⟨-, -, hstop⟩ := hsteps.attempt ha
    rw [hresult] at hstop
    rw [Except.error.inj (hstop hnot).2]
  | cons hsteps hreclaim hrest ih =>
    rcases List.mem_cons.1 ht with rfl | ht
    · obtain ⟨-, -, hstop⟩ := hsteps.attempt ha
      rw [hresult] at hstop
      cases (hstop hnot).2
    · exact ih ht

end ImageBuild
