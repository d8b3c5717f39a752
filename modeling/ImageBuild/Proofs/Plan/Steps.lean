import ImageBuild.Plan.Run
import ImageBuild.Proofs.World

/-!
# What a step does

`StepRun` has one rule for everything that can happen to a step: the requests it makes, the state of
the services after them, and its result. Running a step follows one of the rules (`stepRun_of_run`)
and leaves the files alone; whatever is proved about steps is proved rule by rule.
-/

namespace ImageBuild

variable {σ : Type} {settings : Settings σ} {w w' : World σ}

/-- What resolving a tag does: no request for a literal tag, one query for a symbolic one. -/
inductive TagSpec.Resolution (settings : Settings σ) :
    TagSpec → σ → List Event → σ → Except BuildError String → Prop
  | literal (text : String) (s : σ) : Resolution settings (.literal text) s [] s (.ok text)
  | answered {spec : TagSpec} {query : Query} {s s' : σ} {text : String}
      (hquery : spec.query? = some query)
      (hanswer : settings.provider.answer s query settings.context = (s', .ok text)) :
      Resolution settings spec s [.query query settings.context] s' (.ok text)
  | unanswered {spec : TagSpec} {query : Query} {s s' : σ} {frames : Frames}
      (hquery : spec.query? = some query)
      (hanswer : settings.provider.answer s query settings.context = (s', .error frames)) :
      Resolution settings spec s [.query query settings.context] s'
        (.error (.versionControl spec.text frames))

/-- What a step does that is given a directory and an image. -/
inductive StepRun (settings : Settings σ) (context : BuildDir) (image : Option String) :
    ImageStep → σ → List Event → σ → Except BuildError (Option String) → Prop
  /-- There is no backend; only a push that is skipped does not ask for one. -/
  | unattached {step : ImageStep} (s : σ) (hbackend : settings.backend = none)
      (hpush : ∀ repository spec, step = .push repository spec → settings.skipPush = false) :
      StepRun settings context image step s [] s (.error .notConfigured)
  | built {backend : Backend σ} {reference id : String} {s : σ}
      (hbackend : settings.backend = some backend)
      (hcall : (backend.build s context reference).result = .ok id) :
      StepRun settings context image (.build reference) s [.build context reference]
        (backend.build s context reference).state (.ok (some id))
  | notBuilt {backend : Backend σ} {reference : String} {s : σ} {fault : BackendFault}
      (hbackend : settings.backend = some backend)
      (hcall : (backend.build s context reference).result = .error fault) :
      StepRun settings context image (.build reference) s [.build context reference]
        (backend.build s context reference).state (.error (.ofBackend "build" fault))
  | noImage {backend : Backend σ} {repository : String} {spec : TagSpec} (s : σ)
      (hbackend : settings.backend = some backend) (himage : image = none) :
      StepRun settings context image (.tag repository spec) s [] s
        (.error (.noImage (ImageStep.tag repository spec).message))
  | tagUnresolved {backend : Backend σ} {id repository : String} {spec : TagSpec} {s s' : σ}
      {events : List Event} {e : BuildError} (hbackend : settings.backend = some backend)
      (himage : image = some id) (hspec : spec.Resolution settings s events s' (.error e)) :
      StepRun settings context image (.tag repository spec) s events s' (.error e)
  | tagged {backend : Backend σ} {id repository text : String} {spec : TagSpec} {s s' : σ}
      {events : List Event} (hbackend : settings.backend = some backend)
      (himage : image = some id) (hspec : spec.Resolution settings s events s' (.ok text))
      (hcall : (backend.tag s' id repository text).result = .ok ()) :
      StepRun settings context image (.tag repository spec) s
        (events ++ [.tag id repository text]) (backend.tag s' id repository text).state
        (.ok (some id))
  | notTagged {backend : Backend σ} {id repository text : String} {spec : TagSpec} {s s' : σ}
      {events : List Event} {fault : BackendFault} (hbackend : settings.backend = some backend)
      (himage : image = some id) (hspec : spec.Resolution settings s events s' (.ok text))
      (hcall : (backend.tag s' id repository text).result = .error fault) :
      StepRun settings context image (.tag repository spec) s
        (events ++ [.tag id repository text]) (backend.tag s' id repository text).state
        (.error (.ofBackend "tag" fault))
  | pushSkipped {repository : String} {spec : TagSpec} (s : σ) (hskip : settings.skipPush = true) :
      StepRun settings context image (.push repository spec) s [] s (.ok image)
  | pushUnresolved {backend : Backend σ} {repository : String} {spec : TagSpec} {s s' : σ}
      {events : List Event} {e : BuildError} (hskip : settings.skipPush = false)
      (hbackend : settings.backend = some backend)
      (hspec : spec.Resolution settings s events s' (.error e)) :
      StepRun settings context image (.push repository spec) s events s' (.error e)
  | pushed {backend : Backend σ} {repository text : String} {spec : TagSpec} {s s' : σ}
      {events : List Event} (hskip : settings.skipPush = false)
      (hbackend : settings.backend = some backend)
      (hspec : spec.Resolution settings s events s' (.ok text))
      (hcall : (backend.push s' repository text).result = .ok ()) :
      StepRun settings context image (.push repository spec) s
        (events ++ [.push repository text]) (backend.push s' repository text).state (.ok image)
  | notPushed {backend : Backend σ} {repository text : String} {spec : TagSpec} {s s' : σ}
      {events : List Event} {fault : BackendFault} (hskip : settings.skipPush = false)
      (hbackend : settings.backend = some backend)
      (hspec : spec.Resolution settings s events s' (.ok text))
      (hcall : (backend.push s' repository text).result = .error fault) :
      StepRun settings context image (.push repository spec) s
        (events ++ [.push repository text]) (backend.push s' repository text).state
        (.error (.ofBackend "push" fault))

/-! ## What follows from the rules -/

theorem TagSpec.Resolution.eq_query_of_mem {spec : TagSpec} {s s' : σ} {events : List Event}
    {result : Except BuildError String} (h : spec.Resolution settings s events s' result)
    {event : Event} (he : event ∈ events) : ∃ query, event = .query query settings.context := by
  cases h with
  | literal => cases he
  | answered => exact ⟨_, List.mem_singleton.1 he⟩
  | unanswered => exact ⟨_, List.mem_singleton.1 he⟩

namespace StepRun

variable {context : BuildDir} {image : Option String} {step : ImageStep} {s s' : σ}
  {events : List Event} {result : Except BuildError (Option String)}

/-- Every request of a step is a query about the context, or the one request of its kind. -/
theorem event_cases (h : StepRun settings context image step s events s' result) {event : Event}
    (he : event ∈ events) :
    (∃ query, event = .query query settings.context) ∨
      (∃ reference, step = .build reference ∧ event = .build context reference) ∨
      (∃ id repository spec text, step = .tag repository spec ∧ image = some id ∧
        event = .tag id repository text) ∨
      ∃ repository spec text, step = .push repository spec ∧ event = .push repository text := by
  cases h with
  | unattached => cases he
  | built => exact Or.inr (Or.inl ⟨_, rfl, List.mem_singleton.1 he⟩)
  | notBuilt => exact Or.inr (Or.inl ⟨_, rfl, List.mem_singleton.1 he⟩)
  | noImage => cases he
  | tagUnresolved hbackend himage hspec => exact Or.inl (hspec.eq_query_of_mem he)
  | tagged hbackend himage hspec =>
    rcases List.mem_append.1 he with he | he
    · exact Or.inl (hspec.eq_query_of_mem he)
    · exact Or.inr (Or.inr (Or.inl ⟨_, _, _, _, rfl, himage, List.mem_singleton.1 he⟩))
  | notTagged hbackend himage hspec =>
    rcases List.mem_append.1 he with he | he
    · exact Or.inl (hspec.eq_query_of_mem he)
    · exact Or.inr (Or.inr (Or.inl ⟨_, _, _, _, rfl, himage, List.mem_singleton.1 he⟩))
  | pushSkipped => cases he
  | pushUnresolved hskip hbackend hspec => exact Or.inl (hspec.eq_query_of_mem he)
  | pushed hskip hbackend hspec =>
    rcases List.mem_append.1 he with he | he
    · exact Or.inl (hspec.eq_query_of_mem he)
    · exact Or.inr (Or.inr (Or.inr ⟨_, _, _, rfl, List.mem_singleton.1 he⟩))
  | notPushed hskip hbackend hspec =>
    rcases List.mem_append.1 he with he | he
    · exact Or.inl (hspec.eq_query_of_mem he)
    · exact Or.inr (Or.inr (Or.inr ⟨_, _, _, rfl, List.mem_singleton.1 he⟩))

/-- A tag request is about the image that the step is given. -/
theorem image_eq_of_mem (h : StepRun settings context image step s events s' result)
    {id repository tag : String} (he : Event.tag id repository tag ∈ events) : image = some id := by
  rcases h.event_cases he with ⟨_, he⟩ | ⟨_, -, he⟩ | ⟨_, _, _, _, -, himage, he⟩ | ⟨_, _, _, -, he⟩
  · cases he
  · cases he
  · cases he
    exact himage
  · cases he

/-- A build request hands out the directory that the step is given. -/
theorem eq_of_build_mem (h : StepRun settings context image step s events s' result)
    {dir : BuildDir} {reference : String} (he : Event.build dir reference ∈ events) :
    dir = context := by
  rcases h.event_cases he with ⟨_, he⟩ | ⟨_, -, he⟩ | ⟨_, _, _, _, -, -, he⟩ | ⟨_, _, _, -, he⟩
  · cases he
  · cases he
    rfl
  · cases he
  · cases he

/-- A tag without an image asks for nothing. -/
theorem of_no_image {backend : Backend σ} {repository : String} {spec : TagSpec}
    (h : StepRun settings context none (.tag repository spec) s events s' result)
    (hbackend : settings.backend = some backend) :
    events = [] ∧ s' = s ∧ result = .error (.noImage (ImageStep.tag repository spec).message) := by
  cases h with
  | unattached s hnone => rw [hbackend] at hnone; cases hnone
  | noImage => exact ⟨rfl, rfl, rfl⟩
  | tagUnresolved hbackend himage => cases himage
  | tagged hbackend himage => cases himage
  | notTagged hbackend himage => cases himage

end StepRun

/-! ## Running follows the rules -/

theorem TagSpec.resolution_of_resolve {spec : TagSpec} {result : Except BuildError String}
    (h : spec.resolve settings w = (w', result)) :
    ∃ events s, spec.Resolution settings w.service events s result ∧ w.Moved events s w' := by
  unfold resolve at h
  split at h
  · rename_i text
    obtain ⟨rfl, rfl⟩ := Prod.mk.inj h
    exact ⟨[], _, .literal text _, .refl _⟩
  · rename_i hliteral
    split at h
    · rename_i hquery
      cases spec with
      | literal text => exact absurd rfl (hliteral text)
      | _ => cases hquery
    · rename_i query hquery
      split at h
      · rename_i text hask
        obtain ⟨rfl, rfl⟩ := Prod.mk.inj h
        obtain ⟨s, hmoved, hanswer⟩ := World.moved_of_ask hask
        exact ⟨_, s, .answered hquery hanswer, hmoved⟩
      · rename_i frames hask
        obtain ⟨rfl, rfl⟩ := Prod.mk.inj h
        obtain ⟨s, hmoved, hanswer⟩ := World.moved_of_ask hask
        exact ⟨_, s, .unanswered hquery hanswer, hmoved⟩

namespace ImageStep

variable {dir : String} {image : Option String} {result : Except BuildError (Option String)}

theorem stepRun_of_runBuild {reference : String}
    (h : runBuild settings dir reference w = (w', result)) :
    ∃ events s, StepRun settings ⟨w.files, w.cwd, dir⟩ image (.build reference) w.service events s
      result ∧ w.Moved events s w' := by
  unfold runBuild at h
  split at h
  · rename_i hbackend
    obtain ⟨rfl, rfl⟩ := Prod.mk.inj h
    exact ⟨[], _, .unattached _ hbackend (by simp), .refl _⟩
  · rename_i backend hbackend
    dsimp only at h
    split at h
    · rename_i fault hreq
      obtain ⟨rfl, rfl⟩ := Prod.mk.inj h
      obtain ⟨hmoved, hcall⟩ := World.moved_of_request hreq
      exact ⟨_, _, .notBuilt hbackend hcall, hmoved⟩
    · rename_i id hreq
      obtain ⟨rfl, rfl⟩ := Prod.mk.inj h
      obtain ⟨hmoved, hcall⟩ := World.moved_of_request hreq
      exact ⟨_, _, .built hbackend hcall, hmoved.log _⟩

theorem stepRun_of_runTag {context : BuildDir} {repository : String} {spec : TagSpec}
    (h : runTag settings image repository spec w = (w', result)) :
    ∃ events s, StepRun settings context image (.tag repository spec) w.service events s
      result ∧ w.Moved events s w' := by
  unfold runTag at h
  split at h
  · rename_i hbackend
    obtain ⟨rfl, rfl⟩ := Prod.mk.inj h
    exact ⟨[], _, .unattached _ hbackend (by simp), .refl _⟩
  · rename_i backend hbackend
    split at h
    · obtain ⟨rfl, rfl⟩ := Prod.mk.inj h
      exact ⟨[], _, .noImage _ hbackend rfl, .refl _⟩
    · rename_i id
      split at h
      · rename_i e hresolve
        obtain ⟨rfl, rfl⟩ := Prod.mk.inj h
        obtain ⟨events, s, hspec, hmoved⟩ := TagSpec.resolution_of_resolve hresolve
        exact ⟨events, s, .tagUnresolved hbackend rfl hspec, hmoved⟩
      · rename_i w₁ text hresolve
        obtain ⟨events, s, hspec, hmoved⟩ := TagSpec.resolution_of_resolve hresolve
        split at h
        · rename_i fault hreq
          obtain ⟨rfl, rfl⟩ := Prod.mk.inj h
          obtain ⟨hcalled, hcall⟩ := World.moved_of_request hreq
          rw [hmoved.service] at hcalled hcall
          exact ⟨_, _, .notTagged hbackend rfl hspec hcall, hmoved.trans hcalled⟩
        · rename_i hreq
          obtain ⟨rfl, rfl⟩ := Prod.mk.inj h
          obtain ⟨hcalled, hcall⟩ := World.moved_of_request hreq
          rw [hmoved.service] at hcalled hcall
          exact ⟨_, _, .tagged hbackend rfl hspec hcall, hmoved.trans hcalled⟩

theorem stepRun_of_runPush {context : BuildDir} {repository : String} {spec : TagSpec}
    (h : runPush settings image repository spec w = (w', result)) :
    ∃ events s, StepRun settings context image (.push repository spec) w.service events s
      result ∧ w.Moved events s w' := by
  unfold runPush at h
  split at h
  · rename_i hskip
    obtain ⟨rfl, rfl⟩ := Prod.mk.inj h
    exact ⟨[], _, .pushSkipped _ hskip, .refl _⟩
  · rename_i hskip
    rw [Bool.not_eq_true] at hskip
    split at h
    · rename_i hbackend
      obtain ⟨rfl, rfl⟩ := Prod.mk.inj h
      exact ⟨[], _, .unattached _ hbackend fun _ _ _ => hskip, .refl _⟩
    · rename_i backend hbackend
      split at h
      · rename_i e hresolve
        obtain ⟨rfl, rfl⟩ := Prod.mk.inj h
        obtain ⟨events, s, hspec, hmoved⟩ := TagSpec.resolution_of_resolve hresolve
        exact ⟨events, s, .pushUnresolved hskip hbackend hspec, hmoved⟩
      · rename_i w₁ text hresolve
        obtain ⟨events, s, hspec, hmoved⟩ := TagSpec.resolution_of_resolve hresolve
        split at h
        · rename_i fault hreq
          obtain ⟨rfl, rfl⟩ := Prod.mk.inj h
          obtain ⟨hcalled, hcall⟩ := World.moved_of_request hreq
          rw [hmoved.service] at hcalled hcall
          exact ⟨_, _, .notPushed hskip hbackend hspec hcall, hmoved.trans hcalled⟩
        · rename_i hreq
          obtain ⟨rfl, rfl⟩ := Prod.mk.inj h
          obtain ⟨hcalled, hcall⟩ := World.moved_of_request hreq
          rw [hmoved.service] at hcalled hcall
          exact ⟨_, _, .pushed hskip hbackend hspec hcall, hmoved.trans hcalled⟩

/-- Running a step follows one of the rules, and leaves the files alone. -/
theorem stepRun_of_run {step : ImageStep} (h : run settings dir image step w = (w', result)) :
    ∃ events s, StepRun settings ⟨w.files, w.cwd, dir⟩ image step w.service events s result ∧
      w.Moved events s w' := by
  cases step with
  | build reference => exact stepRun_of_runBuild h
  | tag repository spec => exact stepRun_of_runTag h
  | push repository spec => exact stepRun_of_runPush h

end ImageStep

end ImageBuild
