import ImageBuild.Proofs.Backend.Memory
import ImageBuild.Proofs.Builder.Results

/-!
# What a run leaves in an image store

A run on the backend in memory leaves one new image for each section behind the images that were
there, with the tags of the section as its references. The temporary reference of a section, which
is its first one, is found and removed before the next section begins (`Reclaim.removes`): the new
image is the only one with a reference that ends in the identifier of the section, whatever the
identifiers of the other sections are. What one section does to the store is `section_inMemory`; the
run is made of that by induction over its sections (`runPlan_inMemory`).
-/

namespace ImageBuild

variable {σ τ : Type}

/-! ## Services with states of their own -/

/-- A backend beside something else with a state. -/
def Backend.beside (backend : Backend σ) : Backend (σ × τ) where
  build := fun (s, t) context reference =>
    let answer := backend.build s context reference
    ⟨(answer.state, t), answer.output, answer.result⟩
  tag := fun (s, t) id repository tag =>
    let answer := backend.tag s id repository tag
    ⟨(answer.state, t), answer.output, answer.result⟩
  push := fun (s, t) repository tag =>
    let answer := backend.push s repository tag
    ⟨(answer.state, t), answer.output, answer.result⟩
  find := fun (s, t) pattern =>
    let answer := backend.find s pattern
    ⟨(answer.state, t), answer.output, answer.result⟩
  removeReference := fun (s, t) reference =>
    let answer := backend.removeReference s reference
    ⟨(answer.state, t), answer.output, answer.result⟩

/-- Version control that answers every query, by its state and to its next state. -/
structure Answers (τ : Type) where
  answer : τ → Query → String → τ × String

namespace Answers

/-- The provider of answers beside something else with a state. -/
def provider (answers : Answers τ) : Provider (σ × τ) where
  answer := fun (s, t) query root =>
    let (t, text) := answers.answer t query root
    ((s, t), .ok text)

/-- The text of a tag in a state of version control, and the next state. -/
def resolve (answers : Answers τ) (root : String) (t : τ) (spec : TagSpec) : τ × String :=
  match spec.query? with
  | none => (t, spec.text)
  | some query => answers.answer t query root

/-- The texts of some tags, one after the other. -/
def resolveAll (answers : Answers τ) (root : String) : τ → List TagSpec → τ × List String
  | t, [] => (t, [])
  | t, spec :: rest =>
    let (t, text) := answers.resolve root t spec
    let (t, texts) := answers.resolveAll root t rest
    (t, text :: texts)

/-- The state after a section with some tags: they are resolved to tag the image, and once more to
push it if that is done. -/
def afterSection (answers : Answers τ) (root : String) (pushed : Bool) (t : τ)
    (specs : List TagSpec) : τ :=
  let t := (answers.resolveAll root t specs).1
  if pushed then (answers.resolveAll root t specs).1 else t

end Answers

/-- Settings with the backend in memory. -/
def Settings.inMemory (context : String) (answers : Answers τ) (skipPush : Bool) :
    Settings (ImageStore × τ) where
  context := context
  backend := some ImageStore.backend.beside
  provider := answers.provider
  skipPush := skipPush

/-! ## The images of a configuration -/

/-- The texts of the tags that some sections give to their images, one list for each section. -/
def tagTexts (answers : Answers τ) (root : String) (pushed : Section → Bool) :
    τ → List Section → List (List String)
  | _, [] => []
  | t, s :: rest => (answers.resolveAll root t s.tags).2 ::
      tagTexts answers root pushed (answers.afterSection root (pushed s) t s.tags) rest

/-- The image of a section, by its number and the texts of its tags. -/
def Section.image (s : Section) (n : Nat) (texts : List String) : Image :=
  ⟨ImageStore.imageId n, texts.map fun text => s.repository ++ ":" ++ text, n⟩

/-- The images of some sections, one for each, after a number of others. -/
def newImages (answers : Answers τ) (root : String) (pushed : Section → Bool) :
    Nat → τ → List Section → List Image
  | _, _, [] => []
  | n, t, s :: rest => s.image (n + 1) (answers.resolveAll root t s.tags).2 ::
      newImages answers root pushed (n + 1) (answers.afterSection root (pushed s) t s.tags) rest

/-- A store of images, the sections of a plan and the texts of their tags have nothing in common that
could be taken for a temporary reference: nothing that was there or is given by a tag ends in the
identifier of a section, and no image has the identifier of a new one. -/
structure Unmistakable (store : ImageStore) (plans : Plan) (texts : List (List String)) : Prop where
  rules : store.rules = []
  colon : ∀ plan ∈ plans, ':' ∉ plan.uuid.toList
  references : ∀ image ∈ store.images, ∀ reference ∈ image.references, ∀ plan ∈ plans,
    ¬ ':' :: plan.uuid.toList <:+ reference.toList
  tags : ∀ given ∈ texts, ∀ text ∈ given, ∀ plan ∈ plans,
    text ≠ plan.uuid ∧ ¬ ':' :: plan.uuid.toList <:+ text.toList
  ids : ∀ image ∈ store.images, ∀ n, store.built < n → n ≤ store.built + plans.length →
    image.id ≠ ImageStore.imageId n

/-! ## Steps -/

section InMemory

variable {context : String} {answers : Answers τ} {skipPush : Bool} {dir : BuildDir}
  {image : Option String} {store : ImageStore} {t : τ} {s' : ImageStore × τ} {events : List Event}

theorem TagSpec.Resolution.inMemory {spec : TagSpec} {result : Except BuildError String}
    (h : spec.Resolution (.inMemory context answers skipPush) (store, t) events s' result) :
    s' = (store, (answers.resolve context t spec).1) ∧
      result = .ok (answers.resolve context t spec).2 := by
  cases h with
  | literal => exact ⟨rfl, rfl⟩
  | answered hquery hanswer =>
    obtain ⟨hstate, htext⟩ := Prod.mk.inj hanswer
    obtain rfl := Except.ok.inj htext
    unfold Answers.resolve
    rw [hquery]
    exact ⟨hstate.symm, rfl⟩
  | unanswered hquery hanswer => cases (Prod.mk.inj hanswer).2

theorem StepRun.build_inMemory {reference : String} {result : Except BuildError (Option String)}
    (h : StepRun (.inMemory context answers skipPush) dir image (.build reference) (store, t) events
      s' result) (hrules : store.rules = []) :
    s' = (store.add reference, t) ∧ result = .ok (some (ImageStore.imageId (store.built + 1))) := by
  have hcall : Backend.build ImageStore.backend.beside (store, t) dir reference =
      ⟨(store.add reference, t), [.line .stdout ("Successfully tagged " ++ reference)],
        .ok (ImageStore.imageId (store.built + 1))⟩ := by
    simp only [Backend.beside, ImageStore.backend, ImageStore.refusal?_eq_none hrules]
  cases h with
  | unattached _ hbackend => cases hbackend
  | built hbackend hresult =>
    obtain rfl := Option.some.inj hbackend
    rw [hcall] at hresult ⊢
    exact ⟨rfl, by rw [Except.ok.inj hresult]⟩
  | notBuilt hbackend hresult =>
    obtain rfl := Option.some.inj hbackend
    rw [hcall] at hresult
    cases hresult

theorem StepRun.tag_inMemory {id repository : String} {spec : TagSpec}
    {result : Except BuildError (Option String)}
    (h : StepRun (.inMemory context answers skipPush) dir (some id) (.tag repository spec) (store, t)
      events s' result) (hrules : store.rules = []) :
    s' = (store.refer id (repository ++ ":" ++ (answers.resolve context t spec).2),
        (answers.resolve context t spec).1) ∧ result = .ok (some id) := by
  have hcall (t : τ) (text : String) :
      Backend.tag ImageStore.backend.beside (store, t) id repository text =
        ⟨(store.refer id (repository ++ ":" ++ text), t), [], .ok ()⟩ := by
    simp only [Backend.beside, ImageStore.backend, ImageStore.refusal?_eq_none hrules,
      ImageStore.refer]
  cases h with
  | unattached _ hbackend => cases hbackend
  | noImage _ hbackend himage => cases himage
  | tagUnresolved hbackend himage hspec => cases hspec.inMemory.2
  | tagged hbackend himage hspec hresult =>
    obtain rfl := Option.some.inj hbackend
    obtain rfl := Option.some.inj himage
    obtain ⟨rfl, htext⟩ := hspec.inMemory
    rw [hcall, Except.ok.inj htext]
    exact ⟨rfl, rfl⟩
  | notTagged hbackend himage hspec hresult =>
    obtain rfl := Option.some.inj hbackend
    obtain ⟨rfl, htext⟩ := hspec.inMemory
    rw [← Option.some.inj himage, hcall] at hresult
    cases hresult

/-- A push resolves its tag, unless it is skipped, and leaves the images alone. -/
theorem StepRun.push_inMemory {repository : String} {spec : TagSpec}
    {result : Except BuildError (Option String)}
    (h : StepRun (.inMemory context answers skipPush) dir image (.push repository spec) (store, t)
      events s' result) (hrules : store.rules = []) :
    s' = (store, if skipPush then t else (answers.resolve context t spec).1) ∧
      result = .ok image := by
  have hcall (t : τ) (text : String) :
      Backend.push ImageStore.backend.beside (store, t) repository text = ⟨(store, t),
        [.lines .stderr ("pushing " ++ repository ++ "\r\n\n" ++ text ++ ": pushed  \n")],
        .ok ()⟩ := by
    simp only [Backend.beside, ImageStore.backend, ImageStore.refusal?_eq_none hrules]
  cases h with
  | unattached _ hbackend => cases hbackend
  | pushSkipped _ hskip =>
    rw [if_pos (show skipPush = true from hskip)]
    exact ⟨rfl, rfl⟩
  | pushUnresolved hskip hbackend hspec => cases hspec.inMemory.2
  | pushed hskip hbackend hspec hresult =>
    obtain rfl := Option.some.inj hbackend
    obtain ⟨rfl, -⟩ := hspec.inMemory
    rw [hcall, if_neg (by rw [show skipPush = false from hskip]; decide)]
    exact ⟨rfl, rfl⟩
  | notPushed hskip hbackend hspec hresult =>
    obtain rfl := Option.some.inj hbackend
    obtain ⟨rfl, -⟩ := hspec.inMemory
    rw [hcall] at hresult
    cases hresult

/-! ## Sections -/

/-- A step that can only succeed in one way is followed by the rest of the steps. -/
theorem SectionRun.of_cons {settings : Settings σ} {earlier attempts : List (Attempt σ)}
    {step : ImageStep} {rest : List ImageStep} {s s₁ s' : σ}
    {result : Except BuildError (Option String)}
    (h : SectionRun settings dir earlier (step :: rest) s attempts s' result)
    (hstep : ∀ events s₂ result, StepRun settings dir (lastBuilt earlier) step s events s₂ result →
      s₂ = s₁ ∧ result = .ok image) :
    ∃ earlier' attempts', lastBuilt earlier' = image ∧
      SectionRun settings dir earlier' rest s₁ attempts' s' result := by
  cases h with
  | goOn hrun hresult hrest =>
    obtain ⟨rfl, rfl⟩ := hstep _ _ _ hrun
    exact ⟨_, _, hrun.eq_lastBuilt.symm, hrest⟩
  | stop hrun hresult => cases (hstep _ _ _ hrun).2

variable {earlier attempts : List (Attempt (ImageStore × τ))} {rest : List ImageStep}
  {result : Except BuildError (Option String)} {repository : String}

/-- Tags give the newest image their texts as references. -/
theorem SectionRun.tags_inMemory {specs : List TagSpec} {images : List Image} {id : String}
    {references : List String} {created : Int} {n : Nat}
    (hids : ∀ other ∈ images, other.id ≠ id) (himage : lastBuilt earlier = some id)
    (h : SectionRun (.inMemory context answers skipPush) dir earlier
      (specs.map (.tag repository) ++ rest) (⟨images ++ [⟨id, references, created⟩], [], n⟩, t)
      attempts s' result) :
    ∃ earlier' attempts', lastBuilt earlier' = some id ∧
      SectionRun (.inMemory context answers skipPush) dir earlier' rest
        (⟨images ++ [⟨id, references ++ (answers.resolveAll context t specs).2.map
            fun text => repository ++ ":" ++ text, created⟩], [], n⟩,
          (answers.resolveAll context t specs).1) attempts' s' result := by
  induction specs generalizing earlier attempts references t with
  | nil => exact ⟨earlier, attempts, himage, by simpa [Answers.resolveAll] using h⟩
  | cons spec specs ih =>
    rw [List.map_cons, List.cons_append] at h
    obtain ⟨earlier₁, attempts₁, himage₁, hrest⟩ := h.of_cons fun events s₂ res hstep =>
      (himage ▸ hstep).tag_inMemory rfl
    rw [ImageStore.refer, ImageStore.addReference_concat hids] at hrest
    dsimp only at hrest
    obtain ⟨earlier₂, attempts₂, himage₂, hrest⟩ := ih himage₁ hrest
    exact ⟨earlier₂, attempts₂, himage₂, by simpa [Answers.resolveAll] using hrest⟩

/-- Pushes leave the images alone. -/
theorem SectionRun.pushes_inMemory {specs : List TagSpec} (hrules : store.rules = [])
    (h : SectionRun (.inMemory context answers skipPush) dir earlier
      (specs.map (.push repository) ++ rest) (store, t) attempts s' result) :
    ∃ earlier' attempts', lastBuilt earlier' = lastBuilt earlier ∧
      SectionRun (.inMemory context answers skipPush) dir earlier' rest
        (store, if skipPush then t else (answers.resolveAll context t specs).1)
        attempts' s' result := by
  induction specs generalizing earlier attempts t with
  | nil => exact ⟨earlier, attempts, rfl, by simpa [Answers.resolveAll] using h⟩
  | cons spec specs ih =>
    rw [List.map_cons, List.cons_append] at h
    obtain ⟨earlier₁, attempts₁, himage₁, hrest⟩ := h.of_cons fun events s₂ res hstep =>
      hstep.push_inMemory hrules
    obtain ⟨earlier₂, attempts₂, himage₂, hrest⟩ := ih hrest
    refine ⟨earlier₂, attempts₂, himage₂.trans himage₁, ?_⟩
    cases skipPush <;> simpa [Answers.resolveAll] using hrest

/-- Whether a section is pushed, which it, its plan or the run may skip. -/
def Section.isPushed (planSkips runSkips : Bool) (s : Section) : Bool :=
  !(s.skipPush || planSkips || runSkips)

/-- The store after the steps of a section: its image is the newest one and has the temporary
reference in front of the references of its tags. -/
def ImageStore.withTemporary (store : ImageStore) (s : Section) (uuid : String)
    (texts : List String) : ImageStore :=
  let image := s.image (store.built + 1) texts
  { store with
    images := store.images ++
      [{ image with references := (s.repository ++ ":" ++ uuid) :: image.references }]
    built := store.built + 1 }

/-- The store after a section. -/
def ImageStore.withImage (store : ImageStore) (s : Section) (texts : List String) : ImageStore :=
  { store with
    images := store.images ++ [s.image (store.built + 1) texts]
    built := store.built + 1 }

/-- The steps of a section succeed, and leave its image with the temporary reference. -/
theorem SectionRun.section_inMemory {s : Section} {uuid : String} {planSkips : Bool}
    (h : SectionRun (.inMemory context answers skipPush) dir [] (Compiler.steps planSkips uuid s)
      (store, t) attempts s' result) (hrules : store.rules = [])
    (hids : ∀ other ∈ store.images, other.id ≠ ImageStore.imageId (store.built + 1)) :
    (∃ id, result = .ok id) ∧
      s' = (store.withTemporary s uuid (answers.resolveAll context t s.tags).2,
        answers.afterSection context (s.isPushed planSkips skipPush) t s.tags) := by
  obtain ⟨images, rules, n⟩ := store
  obtain rfl : rules = [] := hrules
  obtain ⟨earlier₁, attempts₁, himage₁, hrest⟩ :=
    h.of_cons fun events s₂ res hstep => hstep.build_inMemory rfl
  obtain ⟨earlier₂, attempts₂, -, hrest⟩ := hrest.tags_inMemory hids himage₁
  have hend : ∃ earlier' attempts',
      SectionRun (.inMemory context answers skipPush) dir earlier' []
        (ImageStore.withTemporary ⟨images, [], n⟩ s uuid (answers.resolveAll context t s.tags).2,
          answers.afterSection context (s.isPushed planSkips skipPush) t s.tags)
        attempts' s' result := by
    by_cases hskip : (s.skipPush || planSkips) = true
    · have hpushed : s.isPushed planSkips skipPush = false := by simp [Section.isPushed, hskip]
      rw [if_pos hskip] at hrest
      rw [hpushed]
      exact ⟨earlier₂, attempts₂, hrest⟩
    · have hpushed : s.isPushed planSkips skipPush = !skipPush := by
        simp [Section.isPushed, Bool.not_eq_true _ ▸ hskip]
      rw [if_neg hskip, ← List.append_nil (s.tags.map (ImageStep.push s.repository))] at hrest
      obtain ⟨earlier₃, attempts₃, -, hrest⟩ := hrest.pushes_inMemory rfl
      rw [hpushed]
      refine ⟨earlier₃, attempts₃, ?_⟩
      cases skipPush <;> exact hrest
  obtain ⟨earlier', attempts', hdone⟩ := hend
  cases hdone with
  | done => exact ⟨⟨_, rfl⟩, rfl⟩

/-- The temporary reference of the newest image is found and removed, if it is the first reference
of that image and nothing else could be taken for it. -/
theorem Reclaim.removes {s : Section} {uuid : String} {texts : List String}
    (h : Reclaim (.inMemory context answers skipPush) uuid (store.withTemporary s uuid texts, t)
      events s') (hrules : store.rules = [])
    (hothers : ∀ other ∈ store.images, ∀ reference ∈ other.references,
      ¬ ':' :: uuid.toList <:+ reference.toList)
    (hrest : ∀ text ∈ texts, text ≠ uuid) :
    s' = (store.withImage s texts, t) := by
  have htemporary : (Pattern.ofSuffix uuid).isMatch (s.repository ++ ":" ++ uuid) = true :=
    Pattern.isMatch_ofSuffix.2 ⟨s.repository.toList, by simp⟩
  -- the new image stands last, and no other one matches
  have hlatest : Image.latest? (.ofSuffix uuid) (store.withTemporary s uuid texts).images =
      some ⟨ImageStore.imageId (store.built + 1),
        (s.repository ++ ":" ++ uuid) :: (s.image (store.built + 1) texts).references,
        store.built + 1⟩ := by
    refine Image.latest?_concat (fun other hother => ?_) ?_
    · rw [Image.matchesPattern, List.any_eq_false]
      intro reference hreference hmatch
      exact hothers other hother reference hreference (Pattern.isMatch_ofSuffix.1 hmatch)
    · simp [Image.matchesPattern, htemporary]
  have hfind : Backend.find ImageStore.backend.beside (store.withTemporary s uuid texts, t)
      (.ofSuffix uuid) = ⟨(store.withTemporary s uuid texts, t), [],
        .ok (Image.latest? (.ofSuffix uuid) (store.withTemporary s uuid texts).images)⟩ := by
    simp only [Backend.beside, ImageStore.backend,
      (store.withTemporary s uuid texts).refusal?_eq_none hrules]
  -- so removing the temporary reference leaves the references of the tags
  have hfirst : (s.repository ++ ":" ++ uuid) ∉ (s.image (store.built + 1) texts).references := by
    intro hmem
    obtain ⟨text, htext, heq⟩ := List.mem_map.1 hmem
    exact hrest text htext ((String.append_right_inj _).1 heq)
  cases h with
  | unattached _ hbackend => cases hbackend
  | nothing _ hbackend hnone =>
    obtain rfl := Option.some.inj hbackend
    rw [hfind, hlatest] at hnone
    have := hnone _ rfl
    rw [List.find?_cons_of_pos htemporary] at this
    cases this
  | removed _ hbackend hsome href =>
    obtain rfl := Option.some.inj hbackend
    rw [hfind, hlatest] at hsome
    obtain rfl := Option.some.inj (Except.ok.inj hsome)
    rw [List.find?_cons_of_pos htemporary] at href
    obtain rfl := Option.some.inj href
    have hdropped : ImageStore.dropReference (s.repository ++ ":" ++ uuid)
        (store.withTemporary s uuid texts).images = (store.withImage s texts).images := by
      refine ImageStore.dropReference_concat (fun other hother hmem => ?_) hfirst
      exact hothers other hother _ hmem (Pattern.isMatch_ofSuffix.1 htemporary)
    rw [hfind]
    simp only [Backend.beside, ImageStore.backend,
      (store.withTemporary s uuid texts).refusal?_eq_none hrules, hdropped]
    rfl

/-- No reference of an image ends in an identifier that its tags have nothing in common with. -/
theorem Section.not_suffix_of_mem {s : Section} {n : Nat} {texts : List String} {uuid : String}
    (hcolon : ':' ∉ uuid.toList)
    (htags : ∀ text ∈ texts, text ≠ uuid ∧ ¬ ':' :: uuid.toList <:+ text.toList)
    {reference : String} (h : reference ∈ (s.image n texts).references) :
    ¬ ':' :: uuid.toList <:+ reference.toList := by
  obtain ⟨text, htext, rfl⟩ := List.mem_map.1 h
  rw [← Pattern.isMatch_ofSuffix, Pattern.isMatch_reference hcolon]
  exact not_or.2 (htags text htext)

/-- What cannot be mistaken before a section cannot be mistaken after it. -/
theorem Unmistakable.next {s : Section} {planSkips : Bool} {uuid : String} {plans : Plan}
    {texts : List String} {others : List (List String)}
    (h : Unmistakable store (Compiler.planSection planSkips uuid s :: plans) (texts :: others)) :
    Unmistakable (store.withImage s texts) plans others := by
  refine ⟨h.rules, fun plan hplan => h.colon plan (List.mem_cons_of_mem _ hplan), ?_, ?_, ?_⟩
  · intro image himage reference hreference plan hplan
    have hlater := List.mem_cons_of_mem (Compiler.planSection planSkips uuid s) hplan
    rcases List.mem_append.1 himage with himage | himage
    · exact h.references image himage reference hreference plan hlater
    · obtain rfl := List.mem_singleton.1 himage
      exact Section.not_suffix_of_mem (h.colon plan hlater) (fun text htext =>
        h.tags texts List.mem_cons_self text htext plan hlater) hreference
  · intro given hgiven text htext plan hplan
    exact h.tags given (List.mem_cons_of_mem _ hgiven) text htext plan
      (List.mem_cons_of_mem _ hplan)
  · intro image himage n hlow hhigh
    have hlow' : store.built + 1 < n := hlow
    have hhigh' : n ≤ store.built + 1 + plans.length := hhigh
    rcases List.mem_append.1 himage with himage | himage
    · refine h.ids image himage n (by omega) ?_
      rw [List.length_cons]
      omega
    · obtain rfl := List.mem_singleton.1 himage
      intro hid
      have := ImageStore.imageId_injective hid
      omega

/-- A section is not prepared, or it leaves its image behind those that were there. -/
theorem Builder.section_inMemory {b b' : Builder} {w w' : World (ImageStore × τ)} {s : Section}
    {planSkips : Bool} {uuid : String} {plans : Plan} {others : List (List String)}
    {outcome : Except BuildError Unit}
    (hrun : b.runSection (.inMemory context answers skipPush) (Compiler.planSection planSkips uuid s)
      w = (b', w', outcome)) (hservice : w.service = (store, t))
    (h : Unmistakable store (Compiler.planSection planSkips uuid s :: plans)
      ((answers.resolveAll context t s.tags).2 :: others)) :
    (∃ e, outcome = .error e ∧ e.isPreparation = true) ∨
      (outcome = .ok () ∧
        w'.service = (store.withImage s (answers.resolveAll context t s.tags).2,
          answers.afterSection context (s.isPushed planSkips skipPush) t s.tags)) := by
  have hids (other : Image) (hother : other ∈ store.images) :
      other.id ≠ ImageStore.imageId (store.built + 1) := by
    refine h.ids other hother _ (by omega) ?_
    rw [List.length_cons]
    omega
  have houtcome := sectionOutcome (.inMemory context answers skipPush) b
    (Compiler.planSection planSkips uuid s) w
  rw [hrun] at houtcome
  cases houtcome with
  | noWorkdir hclean =>
    exact Or.inl ⟨_, rfl, isPreparation_of_clean (by rw [hclean])⟩
  | notStaged hclean hsetup =>
    exact Or.inl ⟨_, rfl, isPreparation_of_setup (congrArg Prod.snd hsetup)⟩
  | failed hprepared hsteps =>
    rw [hprepared.quiet.service, hservice] at hsteps
    obtain ⟨⟨id, hok⟩, -⟩ := hsteps.section_inMemory h.rules hids
    cases hok
  | done hprepared hsteps hreclaim hmoved =>
    rw [hprepared.quiet.service, hservice] at hsteps
    obtain ⟨-, rfl⟩ := hsteps.section_inMemory h.rules hids
    refine Or.inr ⟨rfl, (quiet_release _ _).service.trans (hmoved.service.trans ?_)⟩
    refine hreclaim.removes h.rules (fun other hother reference hreference => ?_)
      fun text htext => ?_
    · exact h.references other hother reference hreference _ List.mem_cons_self
    · exact (h.tags _ List.mem_cons_self text htext _ List.mem_cons_self).1

theorem Compiler.planSections_cons (c : Compiler) (draw : Nat → String) (used : Nat) (s : Section)
    (rest : List Section) : (c.planSections draw used (s :: rest)).1 =
      planSection c.skipPush (c.uuids.next draw used).1 s ::
        (c.planSections draw (c.uuids.next draw used).2 rest).1 :=
  rfl

/-- The images after the sections of a plan. -/
theorem Builder.runPlan_inMemory (c : Compiler) (draw : Nat → String) (used : Nat)
    (sections : List Section) (b : Builder) {w : World (ImageStore × τ)}
    (hservice : w.service = (store, t))
    (h : Unmistakable store (c.planSections draw used sections).1
      (tagTexts answers context (·.isPushed c.skipPush skipPush) t sections)) :
    let after := b.runPlan (.inMemory context answers skipPush) w
      (c.planSections draw used sections).1
    (∃ e, after.2.2 = .error e ∧ e.isPreparation = true) ∨
      (after.2.2 = .ok () ∧ after.2.1.service.1.images = store.images ++
        newImages answers context (·.isPushed c.skipPush skipPush) store.built t sections) := by
  induction sections generalizing used b w store t with
  | nil => exact Or.inr ⟨rfl, by simp [Compiler.planSections, runPlan, newImages, hservice]⟩
  | cons s rest ih =>
    rw [Compiler.planSections_cons] at h ⊢
    rcases hrun : b.runSection (.inMemory context answers skipPush)
      (Compiler.planSection c.skipPush (c.uuids.next draw used).1 s) w with ⟨b₁, w₁, outcome⟩
    rw [runPlan, hrun]
    rcases section_inMemory hrun hservice h with ⟨e, rfl, he⟩ | ⟨rfl, hservice₁⟩
    · exact Or.inl ⟨e, rfl, he⟩
    · rcases ih _ b₁ hservice₁ h.next with herror | ⟨hok, himages⟩
      · exact Or.inl herror
      · refine Or.inr ⟨hok, himages.trans ?_⟩
        simp only [newImages, ImageStore.withImage, List.append_assoc, List.singleton_append]

theorem not_suffix_of_mem_newImages {pushed : Section → Bool} {n : Nat} {sections : List Section}
    {uuid : String} (hcolon : ':' ∉ uuid.toList)
    (htags : ∀ given ∈ tagTexts answers context pushed t sections, ∀ text ∈ given,
      text ≠ uuid ∧ ¬ ':' :: uuid.toList <:+ text.toList)
    {image : Image} (himage : image ∈ newImages answers context pushed n t sections)
    {reference : String} (hreference : reference ∈ image.references) :
    ¬ ':' :: uuid.toList <:+ reference.toList := by
  induction sections generalizing n t with
  | nil => cases himage
  | cons s rest ih =>
    rcases List.mem_cons.1 himage with rfl | himage
    · exact Section.not_suffix_of_mem hcolon (htags _ List.mem_cons_self) hreference
    · exact ih (fun given hgiven => htags given (List.mem_cons_of_mem _ hgiven)) himage

end InMemory

/-- A run of the plan of a configuration on the backend in memory can only fail to prepare a section.
If it succeeds, the images that were there are left as they were, one image for each section follows
with the tags of the section as its references, and no temporary reference is left. -/
theorem runPlan_reclaims (context : String) (answers : Answers τ) (skipPush : Bool) (c : Compiler)
    (draw : Nat → String) (used : Nat) (config : Config) (plans : Plan) (b : Builder)
    (w : World (ImageStore × τ)) (hplans : (c.compile draw used config).1 = .ok plans)
    (hunmistakable : Unmistakable w.service.1 plans (tagTexts answers context
      (·.isPushed c.skipPush skipPush) w.service.2 config.sections)) :
    let after := b.runPlan (.inMemory context answers skipPush) w plans
    (∃ e, after.2.2 = .error e ∧ e.isPreparation = true) ∨
      (after.2.2 = .ok () ∧
        after.2.1.service.1.images = w.service.1.images ++ newImages answers context
          (·.isPushed c.skipPush skipPush) w.service.1.built w.service.2 config.sections ∧
        ∀ image ∈ after.2.1.service.1.images, ∀ reference ∈ image.references, ∀ plan ∈ plans,
          ¬ ':' :: plan.uuid.toList <:+ reference.toList) := by
  have hcompile : c.compile draw used config = (.ok plans, (c.compile draw used config).2) :=
    Prod.ext hplans rfl
  obtain ⟨-, hsections⟩ := Compiler.eq_planSections_of_compile hcompile
  obtain rfl : _ = plans := congrArg Prod.fst hsections
  intro after
  rcases Builder.runPlan_inMemory c draw used config.sections b rfl hunmistakable with
    herror | ⟨hok, himages⟩
  · exact Or.inl herror
  · refine Or.inr ⟨hok, himages, ?_⟩
    intro image himage reference hreference plan hplan
    rw [himages] at himage
    rcases List.mem_append.1 himage with himage | himage
    · exact hunmistakable.references image himage reference hreference plan hplan
    · exact not_suffix_of_mem_newImages (hunmistakable.colon plan hplan)
        (fun given hgiven text htext => hunmistakable.tags given hgiven text htext plan hplan)
        himage hreference

/-! ## Two sections with one repository and one identifier -/

/-- Version control that counts its answers. -/
def Answers.counted : Answers Nat := ⟨fun n _ _ => (n + 1, "r" ++ toString n)⟩

/-- A world with a dockerfile and an image. -/
def World.stocked : World (ImageStore × Nat) where
  files := ⟨[(["tmp"], .dir 0o755), (["ctx"], .dir 0o755),
    (["ctx", "Dockerfile"], .file [70] 0o644 ⟨1, 5⟩)]⟩
  cwd := []
  temp := "/tmp"
  serial := 1
  service := (⟨[⟨"sha256:feed", ["app:old"], 9⟩], [], 0⟩, 0)
  stdout := .discard
  stderr := .discard
  records := []
  events := []

/-- Two sections that share a repository. The first one has a tag twice. -/
def Config.shared : Config := .ofSections [
  ⟨"a", "Dockerfile", "", "app", [.literal "v1", .branch, .literal "v1"], false⟩,
  ⟨"b", "Dockerfile", "", "app", [.branch], true⟩]

/-- The plan of `Config.shared` under the identifier `u`. -/
def SectionPlan.shared : Plan := [
  ⟨"a", "Dockerfile", "u", [.build "app:u", .tag "app" (.literal "v1"), .tag "app" .branch,
    .tag "app" (.literal "v1"), .push "app" (.literal "v1"), .push "app" .branch,
    .push "app" (.literal "v1")]⟩,
  ⟨"b", "Dockerfile", "u", [.build "app:u", .tag "app" .branch]⟩]

theorem runPlan_reclaims_shared :
    ((Compiler.mk (.fixed "u") false).compile (fun _ => "") 0 .shared).1 = .ok SectionPlan.shared ∧
      (Builder.new.runPlan (.inMemory "/ctx" .counted false) .stocked
          SectionPlan.shared).2.1.service.1.images =
        [⟨"sha256:feed", ["app:old"], 9⟩, ⟨"sha256:0001", ["app:v1", "app:r0", "app:v1"], 1⟩,
          ⟨"sha256:0002", ["app:r2"], 2⟩] := by
  have hcompile : ((Compiler.mk (.fixed "u") false).compile (fun _ => "") 0 .shared).1 =
      .ok SectionPlan.shared := by decide +kernel
  have hdone : (Builder.new.runPlan (.inMemory "/ctx" .counted false) .stocked
      SectionPlan.shared).2.2.isOk = true := by decide +kernel
  have hunmistakable : Unmistakable World.stocked.service.1 SectionPlan.shared
      (tagTexts .counted "/ctx" (·.isPushed false false) World.stocked.service.2
        Config.shared.sections) := by
    refine ⟨rfl, by decide +kernel, by decide +kernel, by decide +kernel, ?_⟩
    intro image himage n hlow hhigh
    obtain rfl := List.mem_singleton.1 himage
    have hn : n = 1 ∨ n = 2 := by
      have hlow' : 0 < n := hlow
      have hhigh' : n ≤ 0 + 2 := hhigh
      omega
    rcases hn with rfl | rfl <;> decide +kernel
  refine ⟨hcompile, ?_⟩
  rcases runPlan_reclaims "/ctx" .counted false _ _ 0 .shared _ .new .stocked hcompile
    hunmistakable with ⟨e, herror, -⟩ | ⟨-, himages, -⟩
  · rw [herror] at hdone
    cases hdone
  · rw [himages]
    decide +kernel

end ImageBuild
