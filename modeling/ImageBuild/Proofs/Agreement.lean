import ImageBuild.Builder.Run
import ImageBuild.Proofs.Builder.Filework

/-!
# Worlds that agree

Nothing that a run does depends on the records there are. So worlds that differ in their records
only stay so, whatever is done in them, and all results are the same. `World.Agree` compares those
records that are kept: what is added to both worlds is the same, and what is added to one of them
only is not kept.
-/

namespace ImageBuild

variable {σ α : Type} {keep : LogRecord → Bool}

namespace World

variable {w v : World σ}

/-- Two worlds are the same, up to records that are not kept. -/
inductive Agree (keep : LogRecord → Bool) (w : World σ) : World σ → Prop
  | intro (records : List LogRecord) (h : w.records.filter keep = records.filter keep) :
      Agree keep w { w with records := records }

theorem Agree.refl (w : World σ) : Agree keep w w := .intro w.records rfl

theorem Agree.sameFiles (h : Agree keep w v) : w.SameFiles v := by
  cases h
  exact ⟨rfl, rfl, rfl, rfl⟩

theorem Agree.service (h : Agree keep w v) : v.service = w.service := by
  cases h
  rfl

/-! ## Records -/

theorem Agree.log (h : Agree keep w v) (records : List LogRecord) :
    Agree keep (w.log records) (v.log records) := by
  cases h with
  | intro others h =>
    refine .intro (others ++ records) ?_
    rw [List.filter_append, ← h]
    exact List.filter_append ..

/-- A record that is not kept is added to one of the worlds. -/
theorem Agree.log_dropped (h : Agree keep w v) {record : LogRecord} (hr : keep record = false) :
    Agree keep (w.log [record]) v := by
  cases h with
  | intro others h =>
    refine .intro others ?_
    rw [← h]
    show List.filter keep (w.records ++ [record]) = _
    rw [List.filter_append, List.filter_singleton, hr]
    exact List.append_nil _

theorem Agree.worked (h : Agree keep w v) (files : FileSystem) (serial : Nat)
    (records : List LogRecord) :
    Agree keep (w.worked files serial records) (v.worked files serial records) := by
  cases h with
  | intro others h =>
    refine .intro (others ++ records) ?_
    rw [List.filter_append, ← h]
    exact List.filter_append ..

theorem keptByWork_agree : KeptByWork (Agree keep : World σ → World σ → Prop) :=
  ⟨Agree.sameFiles, Agree.worked⟩

/-! ## Requests -/

theorem Agree.forwardOne (h : Agree keep w v) (piece : Output) :
    Agree keep (w.forwardOne piece) (v.forwardOne piece) := by
  cases h with
  | intro others h =>
    have hadd : ∀ records, (w.records ++ records).filter keep = (others ++ records).filter keep := by
      intro records
      rw [List.filter_append, List.filter_append, h]
    match piece with
    | .line .stdout text => exact .intro (others ++ (w.stdout.writeLine text).2) (hadd _)
    | .line .stderr text => exact .intro (others ++ (w.stderr.writeLine text).2) (hadd _)
    | .lines .stdout text => exact .intro (others ++ (w.stdout.writeLines text).2) (hadd _)
    | .lines .stderr text => exact .intro (others ++ (w.stderr.writeLines text).2) (hadd _)

theorem Agree.forward (h : Agree keep w v) (output : List Output) :
    Agree keep (w.forward output) (v.forward output) := by
  induction output generalizing w v with
  | nil => exact h
  | cons piece output ih => exact ih (h.forwardOne piece)

theorem Agree.noted (h : Agree keep w v) (event : Event) (s : σ) :
    Agree keep { w.note event with service := s } { v.note event with service := s } := by
  cases h with
  | intro others h => exact .intro others h

theorem Agree.request (h : Agree keep w v) (event : Event) (call : σ → Answer σ α) :
    SameResult (Agree keep) (w.request event call) (v.request event call) := by
  unfold World.request
  dsimp only
  rw [h.service]
  exact .intro ((h.noted event _).forward _) _

theorem Agree.ask (h : Agree keep w v) (provider : Provider σ) (query : Query) (root : String) :
    SameResult (Agree keep) (w.ask provider query root) (v.ask provider query root) := by
  unfold World.ask
  dsimp only
  rw [h.service]
  exact .intro (h.noted (.query query root) _) _

end World

/-! ## Steps -/

open World

variable {w v : World σ} (settings : Settings σ)

theorem TagSpec.resolve_agree (h : Agree keep w v) (spec : TagSpec) :
    SameResult (Agree keep) (spec.resolve settings w) (spec.resolve settings v) := by
  unfold resolve
  split
  · exact .intro h _
  · split
    · exact .intro h _
    · rename_i query _
      obtain ⟨w', v', answer, hw, hv, h'⟩ :=
        (h.ask settings.provider query settings.context).exists
      rw [hw, hv]
      cases answer <;> exact .intro h' _

theorem ImageStep.runBuild_agree (h : Agree keep w v) (dir reference : String) :
    SameResult (Agree keep) (runBuild settings dir reference w) (runBuild settings dir reference v) := by
  unfold runBuild
  rw [h.sameFiles.files, h.sameFiles.cwd]
  cases settings.backend with
  | none => exact .intro h _
  | some backend =>
    obtain ⟨w', v', result, hw, hv, h'⟩ := (h.request (.build ⟨w.files, w.cwd, dir⟩ reference)
      (backend.build · ⟨w.files, w.cwd, dir⟩ reference)).exists
    dsimp only
    rw [hw, hv]
    cases result with
    | error fault => exact .intro h' _
    | ok id => exact .intro (h'.log _) _

theorem ImageStep.runTag_agree (h : Agree keep w v) (image : Option String) (repository : String)
    (spec : TagSpec) :
    SameResult (Agree keep) (runTag settings image repository spec w)
      (runTag settings image repository spec v) := by
  unfold runTag
  cases settings.backend with
  | none => exact .intro h _
  | some backend =>
    cases image with
    | none => exact .intro h _
    | some id =>
      obtain ⟨w₁, v₁, text, hw, hv, h₁⟩ := (TagSpec.resolve_agree settings h spec).exists
      dsimp only
      rw [hw, hv]
      cases text with
      | error e => exact .intro h₁ _
      | ok text =>
        obtain ⟨w₂, v₂, result, hw₂, hv₂, h₂⟩ :=
          (h₁.request (.tag id repository text) (backend.tag · id repository text)).exists
        dsimp only
        rw [hw₂, hv₂]
        cases result <;> exact .intro h₂ _

theorem ImageStep.runPush_agree (h : Agree keep w v) (image : Option String) (repository : String)
    (spec : TagSpec) :
    SameResult (Agree keep) (runPush settings image repository spec w)
      (runPush settings image repository spec v) := by
  unfold runPush
  split_ifs
  · exact .intro h _
  · cases settings.backend with
    | none => exact .intro h _
    | some backend =>
      obtain ⟨w₁, v₁, text, hw, hv, h₁⟩ := (TagSpec.resolve_agree settings h spec).exists
      dsimp only
      rw [hw, hv]
      cases text with
      | error e => exact .intro h₁ _
      | ok text =>
        obtain ⟨w₂, v₂, result, hw₂, hv₂, h₂⟩ :=
          (h₁.request (.push repository text) (backend.push · repository text)).exists
        dsimp only
        rw [hw₂, hv₂]
        cases result <;> exact .intro h₂ _

theorem ImageStep.run_agree (h : Agree keep w v) (dir : String) (image : Option String)
    (step : ImageStep) :
    SameResult (Agree keep) (run settings dir image step w) (run settings dir image step v) := by
  cases step with
  | build reference => exact runBuild_agree settings h dir reference
  | tag repository spec => exact runTag_agree settings h image repository spec
  | push repository spec => exact runPush_agree settings h image repository spec

/-- Steps come to the same in worlds that agree if the first one does and the rest does. -/
theorem ImageStep.runAll_cons_agree {settings settings' : Settings σ} {dir : String}
    {image : Option String} {step : ImageStep} {rest rest' : List ImageStep}
    (hrun : SameResult (Agree keep) (run settings dir image step (w.log [step.startRecord]))
      (run settings' dir image step (v.log [step.startRecord])))
    (hrest : ∀ (image : Option String) (skipped : Bool) (w v : World σ), Agree keep w v →
      SameResult (Agree keep) (runAll settings dir image skipped rest w)
        (runAll settings' dir image skipped rest' v)) (skipped : Bool) :
    SameResult (Agree keep) (runAll settings dir image skipped (step :: rest) w)
      (runAll settings' dir image skipped (step :: rest') v) := by
  obtain ⟨w₁, v₁, result, hw, hv, h₁⟩ := hrun.exists
  unfold runAll
  rw [hw, hv]
  cases result with
  | ok image => exact hrest image skipped _ _ h₁
  | error e =>
    cases e with
    | notConfigured => exact hrest image true _ _ h₁
    | noImage message =>
      dsimp only
      by_cases hskipped : skipped = true
      · rw [if_pos hskipped, if_pos hskipped]
        exact hrest image skipped _ _ (h₁.log _)
      · rw [if_neg hskipped, if_neg hskipped]
        exact .intro h₁ _
    | _ => exact .intro h₁ _

theorem ImageStep.runAll_agree (dir : String) (image : Option String) (skipped : Bool)
    (steps : List ImageStep) (h : Agree keep w v) :
    SameResult (Agree keep) (runAll settings dir image skipped steps w)
      (runAll settings dir image skipped steps v) := by
  induction steps generalizing image skipped w v with
  | nil => exact .intro h _
  | cons step rest ih =>
    exact runAll_cons_agree (run_agree settings (h.log [step.startRecord]) dir image step)
      (fun image skipped _ _ h => ih image skipped h) skipped

/-! ## Intermediate references -/

theorem Builder.reclaim_agree (h : Agree keep w v) (uuid : String) :
    Agree keep (reclaim settings uuid w) (reclaim settings uuid v) := by
  unfold reclaim
  cases settings.backend with
  | none => exact h
  | some backend =>
    obtain ⟨w₁, v₁, found, hw, hv, h₁⟩ :=
      (h.request (.find (.ofSuffix uuid)) (backend.find · (.ofSuffix uuid))).exists
    dsimp only
    rw [hw, hv]
    rcases found with (_ | frames) | _ | image
    · exact h₁
    · exact h₁.log _
    · exact h₁.log _
    · dsimp only
      cases image.references.find? (Pattern.ofSuffix uuid).isMatch with
      | none => exact h₁
      | some reference =>
        have hlogged := h₁.log [.info .builder "deleting temporary tag"
          [("image.id", image.id), ("tag", reference)]]
        obtain ⟨w₂, v₂, result, hw₂, hv₂, h₂⟩ :=
          (hlogged.request (.removeReference reference)
            (backend.removeReference · reference)).exists
        dsimp only
        rw [hw₂, hv₂]
        cases result with
        | error fault => exact h₂.log _
        | ok _ => exact h₂

/-! ## Builders -/

namespace Builder

theorem runSteps_agree (b : Builder) (plan : SectionPlan) (h : Agree keep w v) :
    SameResult (Agree keep) (runSteps settings b plan w) (runSteps settings b plan v) := by
  unfold runSteps
  cases b.workdir with
  | none => exact .intro h _
  | some place => exact ImageStep.runAll_agree settings place.text none false plan.steps h

/-- What a run of a builder leaves: the world, the builder and the result. -/
def left (r : Builder × World σ × Except BuildError Unit) :
    World σ × Builder × Except BuildError Unit :=
  (r.2.1, r.1, r.2.2)

theorem left_eq {r : Builder × World σ × Except BuildError Unit} {b : Builder}
    {result : Except BuildError Unit} (h : left r = (w, b, result)) : r = (b, w, result) := by
  obtain ⟨b', w', result'⟩ := r
  cases h
  rfl

theorem runSection_agree (b : Builder) (plan : SectionPlan) (h : Agree keep w v) :
    SameResult (Agree keep) (left (runSection settings b plan w))
      (left (runSection settings b plan v)) := by
  obtain ⟨w₁, v₁, ⟨b₁, made⟩, hw, hv, h₁⟩ :=
    ((onFiles_clean b).sameResult keptByWork_agree h).exists
  unfold runSection
  rw [left_eq hw, left_eq hv]
  cases made with
  | error e => exact .intro h₁ _
  | ok _ =>
    obtain ⟨w₂, v₂, staged, hw₂, hv₂, h₂⟩ :=
      ((onFiles_setup settings (b₁.bind plan)).sameResult keptByWork_agree h₁).exists
    dsimp only
    rw [hw₂, hv₂]
    cases staged with
    | error e => exact .intro h₂ _
    | ok _ =>
      obtain ⟨w₃, v₃, image, hw₃, hv₃, h₃⟩ :=
        (runSteps_agree settings (b₁.bind plan) plan (h₂.log [sectionRecord plan])).exists
      dsimp only
      rw [hw₃, hv₃]
      cases image with
      | error e => exact .intro h₃ _
      | ok image =>
        obtain ⟨w₄, v₄, b₄, hw₄, hv₄, h₄⟩ := ((onFiles_release (b₁.bind plan)).sameResult
          keptByWork_agree (reclaim_agree settings h₃ plan.uuid)).exists
        obtain ⟨hw₄, hb₄⟩ := Prod.mk.inj hw₄
        obtain ⟨hv₄, hb₄'⟩ := Prod.mk.inj hv₄
        unfold left
        dsimp only
        rw [hw₄, hb₄, hv₄, hb₄']
        exact .intro h₄ _

theorem runPlan_agree (b : Builder) (plans : Plan) (h : Agree keep w v) :
    SameResult (Agree keep) (left (runPlan settings b w plans))
      (left (runPlan settings b v plans)) := by
  induction plans generalizing b w v with
  | nil => exact .intro h _
  | cons plan rest ih =>
    obtain ⟨w₁, v₁, ⟨b₁, result⟩, hw, hv, h₁⟩ := (runSection_agree settings b plan h).exists
    unfold runPlan
    rw [left_eq hw, left_eq hv]
    cases result with
    | error e => exact .intro h₁ _
    | ok _ => exact ih b₁ h₁

end Builder

end ImageBuild
