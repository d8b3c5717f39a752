import ImageBuild.Proofs.Builder.Isolation

/-!
# Runs in other file systems

A run can be followed in another file system and after other requests: `World.transport` makes that
world of a given one. Whatever asks the services only does the same there, if build requests are
answered alike (`runAll_transport`). So a section does the same if it is prepared alike
(`runSection_transport`); `Carries` says what that takes.
-/

namespace ImageBuild

variable {σ : Type} {f : FileSystem → FileSystem} {past : List Event}

/-- A directory seen in another file system. -/
def BuildDir.transport (f : FileSystem → FileSystem) (dir : BuildDir) : BuildDir :=
  { dir with files := f dir.files }

/-- A request as it is made in another file system. -/
def Event.transport (f : FileSystem → FileSystem) : Event → Event
  | .build dir reference => .build (dir.transport f) reference
  | event => event

theorem Event.transport_id (event : Event) : event.transport id = event := by
  cases event <;> rfl

namespace World

variable {w : World σ}

/-- A world with another file system, also where directories were handed out, and in which other
requests were made before. -/
def transport (f : FileSystem → FileSystem) (past : List Event) (w : World σ) : World σ :=
  { w with
    files := f w.files
    events := past ++ w.events.map (Event.transport f) }

/-! ## Requests -/

theorem forwardOne_transport (w : World σ) (piece : Output) :
    (w.transport f past).forwardOne piece = (w.forwardOne piece).transport f past := by
  match piece with
  | .line .stdout _ => rfl
  | .line .stderr _ => rfl
  | .lines .stdout _ => rfl
  | .lines .stderr _ => rfl

theorem forward_transport (w : World σ) (output : List Output) :
    (w.transport f past).forward output = (w.forward output).transport f past := by
  induction output generalizing w with
  | nil => rfl
  | cons piece output ih =>
    have hcons : ∀ w : World σ, w.forward (piece :: output) = (w.forwardOne piece).forward output :=
      fun _ => rfl
    rw [hcons, hcons, forwardOne_transport, ih]

theorem request_transport {α : Type} (w : World σ) (f : FileSystem → FileSystem)
    (past : List Event) (event : Event) (call : σ → Answer σ α) :
    (w.transport f past).request (event.transport f) call =
      ((w.request event call).1.transport f past, (w.request event call).2) := by
  unfold request
  dsimp only
  rw [← forward_transport]
  unfold transport note
  simp only [List.map_append, List.map_cons, List.map_nil, List.append_assoc]

theorem ask_transport (w : World σ) (provider : Provider σ) (query : Query) (root : String) :
    (w.transport f past).ask provider query root =
      ((w.ask provider query root).1.transport f past, (w.ask provider query root).2) := by
  unfold ask transport note
  simp only [List.map_append, List.map_cons, List.map_nil, Event.transport, List.append_assoc]

end World

/-! ## Steps -/

variable {settings : Settings σ} {w : World σ}

theorem TagSpec.resolve_transport (spec : TagSpec) (settings : Settings σ) (w : World σ) :
    spec.resolve settings (w.transport f past) =
      ((spec.resolve settings w).1.transport f past, (spec.resolve settings w).2) := by
  unfold resolve
  split
  · rfl
  · split
    · rfl
    · rw [World.ask_transport]
      rcases w.ask settings.provider _ settings.context with ⟨w', frames | text⟩ <;> rfl

/-- A build request gets the same answer in another file system. -/
def BuildsAlike (settings : Settings σ) (f : FileSystem → FileSystem) (dir : BuildDir) : Prop :=
  ∀ backend, settings.backend = some backend → ∀ s reference,
    backend.build s (dir.transport f) reference = backend.build s dir reference

namespace ImageStep

variable {dir : String} {image : Option String}

theorem runBuild_transport (reference : String)
    (h : BuildsAlike settings f ⟨w.files, w.cwd, dir⟩) :
    runBuild settings dir reference (w.transport f past) =
      ((runBuild settings dir reference w).1.transport f past,
        (runBuild settings dir reference w).2) := by
  unfold runBuild
  split
  · rfl
  · rename_i backend hbackend
    have hrequest : (w.transport f past).request
        (.build ⟨(w.transport f past).files, (w.transport f past).cwd, dir⟩ reference)
        (backend.build · ⟨(w.transport f past).files, (w.transport f past).cwd, dir⟩ reference) =
          _ :=
      (congrArg _ (funext fun s => h backend hbackend s reference)).trans
        (w.request_transport f past (.build ⟨w.files, w.cwd, dir⟩ reference)
          (backend.build · ⟨w.files, w.cwd, dir⟩ reference))
    dsimp only
    rw [hrequest]
    rcases w.request (.build ⟨w.files, w.cwd, dir⟩ reference)
      (backend.build · ⟨w.files, w.cwd, dir⟩ reference) with ⟨w', fault | id⟩ <;> rfl

theorem runTag_transport (settings : Settings σ) (w : World σ) (image : Option String)
    (repository : String) (spec : TagSpec) :
    runTag settings image repository spec (w.transport f past) =
      ((runTag settings image repository spec w).1.transport f past,
        (runTag settings image repository spec w).2) := by
  unfold runTag
  split
  · rfl
  · rename_i backend _
    split
    · rfl
    · rename_i id
      rw [spec.resolve_transport]
      rcases spec.resolve settings w with ⟨w', e | text⟩
      · rfl
      · have hrequest := w'.request_transport f past (.tag id repository text)
          (backend.tag · id repository text)
        dsimp only
        rw [show (w'.transport f past).request (.tag id repository text)
          (backend.tag · id repository text) = _ from hrequest]
        rcases w'.request (.tag id repository text) (backend.tag · id repository text) with
          ⟨w'', fault | ⟨⟩⟩ <;> rfl

theorem runPush_transport (settings : Settings σ) (w : World σ) (image : Option String)
    (repository : String) (spec : TagSpec) :
    runPush settings image repository spec (w.transport f past) =
      ((runPush settings image repository spec w).1.transport f past,
        (runPush settings image repository spec w).2) := by
  unfold runPush
  split
  · rfl
  · split
    · rfl
    · rename_i backend _
      rw [spec.resolve_transport]
      rcases spec.resolve settings w with ⟨w', e | text⟩
      · rfl
      · have hrequest := w'.request_transport f past (.push repository text)
          (backend.push · repository text)
        dsimp only
        rw [show (w'.transport f past).request (.push repository text)
          (backend.push · repository text) = _ from hrequest]
        rcases w'.request (.push repository text) (backend.push · repository text) with
          ⟨w'', fault | ⟨⟩⟩ <;> rfl

theorem run_transport (w : World σ) (past : List Event) (step : ImageStep) (image : Option String)
    (h : BuildsAlike settings f ⟨w.files, w.cwd, dir⟩) :
    run settings dir image step (w.transport f past) =
      ((run settings dir image step w).1.transport f past, (run settings dir image step w).2) := by
  cases step with
  | build reference => exact runBuild_transport reference h
  | tag repository spec => exact runTag_transport settings w image repository spec
  | push repository spec => exact runPush_transport settings w image repository spec

/-- Running steps in another file system. -/
theorem runAll_transport (w : World σ) (past : List Event) (steps : List ImageStep)
    (image : Option String) (skipped : Bool)
    (h : BuildsAlike settings f ⟨w.files, w.cwd, dir⟩) :
    runAll settings dir image skipped steps (w.transport f past) =
      ((runAll settings dir image skipped steps w).1.transport f past,
        (runAll settings dir image skipped steps w).2) := by
  induction steps generalizing w image skipped with
  | nil => rfl
  | cons step rest ih =>
    have hrun := run_transport (w.log [step.startRecord]) past step image h
    unfold runAll
    rw [show run settings dir image step ((w.transport f past).log [step.startRecord]) = _ from
      hrun]
    rcases hresult : run settings dir image step (w.log [step.startRecord]) with ⟨w', result⟩
    obtain ⟨_, _, _, hmoved⟩ := stepRun_of_run hresult
    -- a step leaves the files as they are
    have h' : BuildsAlike settings f ⟨w'.files, w'.cwd, dir⟩ := by
      rw [hmoved.sameFiles.files, hmoved.sameFiles.cwd]
      exact h
    cases result with
    | ok image' => exact ih w' image' skipped h'
    | error e =>
      cases e with
      | notConfigured => exact ih w' image true h'
      | noImage message =>
        dsimp only
        split
        · exact ih (w'.log [skipRecord message]) image skipped h'
        · rfl
      | _ => rfl

end ImageStep

/-! ## Sections -/

namespace Builder

variable {b : Builder} {plan : SectionPlan}

theorem reclaim_transport (settings : Settings σ) (uuid : String) (w : World σ) :
    reclaim settings uuid (w.transport f past) = (reclaim settings uuid w).transport f past := by
  unfold reclaim
  split
  · rfl
  · rename_i backend _
    have hfind := w.request_transport f past (.find (.ofSuffix uuid))
      (backend.find · (.ofSuffix uuid))
    dsimp only
    rw [show (w.transport f past).request (.find (.ofSuffix uuid))
      (backend.find · (.ofSuffix uuid)) = _ from hfind]
    rcases w.request (.find (.ofSuffix uuid)) (backend.find · (.ofSuffix uuid)) with
      ⟨w₁, fault | _ | image⟩
    · cases fault <;> rfl
    · rfl
    · dsimp only
      split
      · rfl
      · rename_i reference _
        let w₂ := w₁.log
          [.info .builder "deleting temporary tag" [("image.id", image.id), ("tag", reference)]]
        have hremove := w₂.request_transport f past (.removeReference reference)
          (backend.removeReference · reference)
        rw [show ((w₁.transport f past).log
            [.info .builder "deleting temporary tag" [("image.id", image.id), ("tag", reference)]]
            ).request (.removeReference reference) (backend.removeReference · reference) = _ from
          hremove]
        rcases w₂.request (.removeReference reference) (backend.removeReference · reference) with
          ⟨w₃, fault | ⟨⟩⟩ <;> rfl

/-- A section is prepared the same in another file system, its builds are answered alike, and its
working directory is given up alike. -/
structure Carries (settings : Settings σ) (f : FileSystem → FileSystem) (past : List Event)
    (b : Builder) (plan : SectionPlan) (w : World σ) : Prop where
  clean : b.clean (w.transport f past) =
    ((b.clean w).1, (b.clean w).2.1.transport f past, (b.clean w).2.2)
  setup : ∀ b₁ w₁, b.clean w = (b₁, w₁, .ok ()) →
    Builder.setup settings (b₁.bind plan) (w₁.transport f past) =
      ((Builder.setup settings (b₁.bind plan) w₁).1.transport f past,
        (Builder.setup settings (b₁.bind plan) w₁).2)
  builds : ∀ b₁ w₁ place w₂, Prepared settings b plan w b₁ w₁ place w₂ →
    BuildsAlike settings f ⟨w₂.files, w₂.cwd, place.text⟩
  release : ∀ b₁ w₁ place w₂ (w₃ : World σ), Prepared settings b plan w b₁ w₁ place w₂ →
    (b₁.bind plan).release (w₃.transport f past) =
      (((b₁.bind plan).release w₃).1, ((b₁.bind plan).release w₃).2.transport f past)

/-- Running a section in another file system. -/
theorem runSection_transport (h : Carries settings f past b plan w) :
    runSection settings b plan (w.transport f past) = ((runSection settings b plan w).1,
      (runSection settings b plan w).2.1.transport f past, (runSection settings b plan w).2.2) := by
  unfold runSection
  rw [h.clean]
  rcases hclean : b.clean w with ⟨b₁, w₁, e | _⟩
  · rfl
  obtain ⟨place, hplace, -⟩ := allocate_of_clean hclean
  dsimp only
  rw [h.setup b₁ w₁ hclean]
  rcases hsetup : setup settings (b₁.bind plan) w₁ with ⟨w₂, e | _⟩
  · rfl
  have hprepared : Prepared settings b plan w b₁ w₁ place w₂ := ⟨hclean, hplace, hsetup⟩
  have hsteps := ImageStep.runAll_transport (w₂.log [sectionRecord plan]) past plan.steps
    none false (h.builds b₁ w₁ place w₂ hprepared)
  have hrun : ∀ w : World σ, runSteps settings (b₁.bind plan) plan w =
      ImageStep.runAll settings place.text none false plan.steps w := by
    intro w
    unfold runSteps bind
    rw [hplace]
  dsimp only
  rw [hrun, hrun, show ImageStep.runAll settings place.text none false plan.steps
    ((w₂.transport f past).log [sectionRecord plan]) = _ from hsteps]
  rcases ImageStep.runAll settings place.text none false plan.steps
    (w₂.log [sectionRecord plan]) with ⟨w₃, e | image⟩
  · rfl
  · dsimp only
    rw [reclaim_transport, h.release b₁ w₁ place w₂ _ hprepared]

/-! ## Other requests before a run -/

theorem release_transport_id (b : Builder) (w : World σ) :
    b.release (w.transport id past) = ((b.release w).1, (b.release w).2.transport id past) := by
  unfold release
  split
  · rfl
  · rename_i place _
    dsimp only
    rw [show (w.transport id past).files = w.files from rfl]
    cases removeWorkdir w.files place <;> rfl

theorem allocate_transport_id (w : World σ) :
    allocate (w.transport id past) = ((allocate w).1.transport id past, (allocate w).2) := by
  unfold allocate
  rw [show (w.transport id past).files.resolve (w.transport id past).cwd
    (w.transport id past).temp = w.files.resolve w.cwd w.temp from rfl]
  cases w.files.resolve w.cwd w.temp with
  | error fault => rfl
  | ok dir =>
    dsimp only
    rw [show (w.transport id past).files = w.files from rfl,
      show (w.transport id past).serial = w.serial from rfl]
    split_ifs <;> rfl

theorem clean_transport_id (b : Builder) (w : World σ) (past : List Event) :
    b.clean (w.transport id past) =
    ((b.clean w).1, (b.clean w).2.1.transport id past, (b.clean w).2.2) := by
  unfold clean
  dsimp only
  rw [release_transport_id, allocate_transport_id]
  rcases allocate (b.release w).2 with ⟨w', fault | place⟩ <;> rfl

theorem setup_transport_id (settings : Settings σ) (b : Builder) (w : World σ) :
    setup settings b (w.transport id past) =
      ((setup settings b w).1.transport id past, (setup settings b w).2) := by
  unfold setup
  rw [show (w.transport id past).files = w.files from rfl,
    show (w.transport id past).cwd = w.cwd from rfl]
  split
  · rfl
  · split
    · rfl
    · split
      · rfl
      · rename_i contained _ _ workdir _
        dsimp only
        rcases w.files.stage contained workdir with ⟨records, files, fault | _⟩ <;> rfl

/-- What was asked for before a run does not matter for it. -/
theorem runPlan_transport_id (settings : Settings σ) (b : Builder) (w : World σ)
    (past : List Event) (plans : Plan) :
    b.runPlan settings (w.transport id past) plans = ((b.runPlan settings w plans).1,
      (b.runPlan settings w plans).2.1.transport id past, (b.runPlan settings w plans).2.2) := by
  induction plans generalizing b w with
  | nil => rfl
  | cons plan rest ih =>
    have hcarries : Carries settings id past b plan w :=
      ⟨clean_transport_id b w past, fun b₁ w₁ _ => setup_transport_id settings (b₁.bind plan) w₁,
        fun _ _ _ _ _ _ _ _ _ => rfl, fun b₁ _ _ _ w₃ _ => release_transport_id (b₁.bind plan) w₃⟩
    unfold runPlan
    rw [runSection_transport hcarries]
    rcases runSection settings b plan w with ⟨b', w', e | _⟩
    · rfl
    · exact ih b' w'

end Builder

end ImageBuild
