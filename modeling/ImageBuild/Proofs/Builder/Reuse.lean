import ImageBuild.Proofs.Builder.Leftovers

/-!
# Using a builder again

Whatever was done with a builder before (`Reached`), a run starts by giving up the working directory
that is left (`runPlan_new`). So a builder that is used again does what a new one does
(`Builder.RunsAsNew`), and a run can be continued on another builder (`runPlan_fresh`). Only a
context that holds the leftover of an earlier run shows it to a new builder (`leftover_staged`).
-/

namespace ImageBuild

variable {σ : Type}

/-! ## Builders that were used -/

/-- A call of a builder. -/
inductive Builder.Call
  | clean
  | release
  | bind (plan : SectionPlan)
  | setup
  | runSteps (plan : SectionPlan)
  | runPlan (plans : Plan)

/-- What a call leaves of a builder and of the world, however it ends. -/
def Builder.call (settings : Settings σ) (b : Builder) (w : World σ) :
    Builder.Call → Builder × World σ
  | .clean => ((b.clean w).1, (b.clean w).2.1)
  | .release => b.release w
  | .bind plan => (b.bind plan, w)
  | .setup => (b, (Builder.setup settings b w).1)
  | .runSteps plan => (b, (Builder.runSteps settings b plan w).1)
  | .runPlan plans => ((b.runPlan settings w plans).1, (b.runPlan settings w plans).2.1)

/-- A builder and a world after some calls. Between the calls anything may change in the world, but
names of working directories that are used up stay so. -/
inductive Reached (settings : Settings σ) : Builder → World σ → Prop
  | new (w : World σ) : Reached settings .new w
  | call {b : Builder} {w : World σ} (c : Builder.Call) (h : Reached settings b w) :
      Reached settings (b.call settings w c).1 (b.call settings w c).2
  | changed {b : Builder} {w w' : World σ} (h : Reached settings b w)
      (hserial : w.serial ≤ w'.serial) : Reached settings b w'

/-- The name of the working directory is used up. -/
def Builder.IsUsed (b : Builder) (w : World σ) : Prop :=
  ∀ place, b.workdir = some place →
    ∃ dir, ∃ m < w.serial, place = dir ++ [Builder.workdirName m]

namespace Builder

variable {settings : Settings σ} {b b' : Builder} {w w' : World σ} {plan : SectionPlan}

theorem IsUsed.mono (h : b.IsUsed w) (hserial : w.serial ≤ w'.serial) : b.IsUsed w' := by
  intro place hplace
  obtain ⟨dir, m, hm, hname⟩ := h place hplace
  exact ⟨dir, m, by omega, hname⟩

theorem isUsed_of_workdir_eq_none (h : b.workdir = none) (w : World σ) : b.IsUsed w := by
  intro place hplace
  rw [h] at hplace
  cases hplace

theorem isUsed_clean (b : Builder) (w : World σ) : (b.clean w).1.IsUsed (b.clean w).2.1 := by
  rcases hclean : b.clean w with ⟨b', w', e | _⟩
  · have hnone := workdir_release b w
    rw [release_of_clean_error hclean] at hnone
    exact isUsed_of_workdir_eq_none hnone w'
  · obtain ⟨place, hplace, hallocate⟩ := allocate_of_clean hclean
    intro place' hplace'
    obtain rfl : place = place' := Option.some.inj (hplace.symm.trans hplace')
    obtain ⟨dir, -, -, hname, -, rfl⟩ := allocate_eq_ok hallocate
    exact ⟨dir, _, Nat.lt_succ_self _, hname⟩

theorem serial_setup (settings : Settings σ) (b : Builder) (w : World σ) :
    (setup settings b w).1.serial = w.serial := by
  unfold setup
  split
  · rfl
  · split
    · rfl
    · split
      · rfl
      · dsimp only
        split <;> rfl

theorem isUsed_runSection (settings : Settings σ) (b : Builder) (plan : SectionPlan) (w : World σ) :
    (runSection settings b plan w).1.IsUsed (runSection settings b plan w).2.1 := by
  have hused := isUsed_clean b w
  have houtcome := sectionOutcome settings b plan w
  generalize runSection settings b plan w = r at houtcome
  -- what is done after the working directory was got uses up no names
  have hset : ∀ {b₁ w₁ w₂} {result : Except BuildError Unit}, b.clean w = (b₁, w₁, .ok ()) →
      setup settings (b₁.bind plan) w₁ = (w₂, result) → (b₁.bind plan).IsUsed w₂ := by
    intro b₁ w₁ w₂ result hclean hsetup
    rw [hclean] at hused
    have hserial := serial_setup settings (b₁.bind plan) w₁
    rw [hsetup] at hserial
    exact IsUsed.mono (b := b₁) hused hserial.ge
  cases houtcome with
  | noWorkdir hclean => rwa [hclean] at hused
  | notStaged hclean hsetup => exact hset hclean hsetup
  | failed hprepared hsteps hmoved =>
    exact (hset hprepared.clean hprepared.setup).mono hmoved.sameFiles.serial.ge
  | done => exact isUsed_of_workdir_eq_none (workdir_release _ _) _

theorem isUsed_runPlan (h : b.IsUsed w) (settings : Settings σ) (plans : Plan) :
    (b.runPlan settings w plans).1.IsUsed (b.runPlan settings w plans).2.1 := by
  induction plans generalizing b w with
  | nil => exact h
  | cons plan rest ih =>
    have hsection := isUsed_runSection settings b plan w
    unfold runPlan
    split
    · rename_i heq
      rwa [heq] at hsection
    · rename_i heq
      rw [heq] at hsection
      exact ih hsection

theorem isUsed_call (h : b.IsUsed w) (settings : Settings σ) (c : Call) :
    (b.call settings w c).1.IsUsed (b.call settings w c).2 := by
  cases c with
  | clean => exact isUsed_clean b w
  | release => exact isUsed_of_workdir_eq_none (workdir_release b w) _
  | bind plan => exact h
  | setup => exact h.mono (serial_setup settings b w).ge
  | runSteps plan => exact h.mono (sameFiles_runSteps settings b plan w).serial.ge
  | runPlan plans => exact isUsed_runPlan h settings plans

end Builder

theorem Reached.isUsed {settings : Settings σ} {b : Builder} {w : World σ}
    (h : Reached settings b w) : b.IsUsed w := by
  induction h with
  | new w => exact Builder.isUsed_of_workdir_eq_none rfl w
  | call c h ih => exact Builder.isUsed_call ih settings c
  | changed h hserial ih => exact ih.mono hserial

/-! ## Runs of builders that were used -/

/-- Nothing that a run comes to leads to a working directory that was left, the context does not
hold it, and the backend sees no more of a directory than what it holds. -/
structure Unseen (settings : Settings σ) (w : World σ) (plans : Plan) (place : Place) (n : Name) :
    Prop where
  wellFormed : w.files.WellFormed
  removable : ∃ files, Builder.removeWorkdir w.files place = .ok files
  name : place.getLast? = some n
  files : w.files.Aside place n
  cwd : n ∉ w.cwd
  temp : ¬ NamedIn n w.temp
  context : ¬ NamedIn n settings.context
  dockerfiles : ∀ plan ∈ plans, ¬ NamedIn n plan.dockerfile
  roots : ∀ before plan after b₁ w₁ b₂ w₂ c, plans = before ++ plan :: after →
    Builder.new.runPlan settings w before = (b₁, w₁, .ok ()) → b₁.clean w₁ = (b₂, w₂, .ok ()) →
    Sandbox.check w₂.files w₂.cwd plan.dockerfile settings.context = .ok c → ¬ c.root <+: place
  backend : ∀ backend, settings.backend = some backend → backend.Local

/-- What a run comes to on a builder that holds a working directory at `place`, and on a new builder
in the same world: the same, but that the new one leaves that directory where it is. -/
structure SameRun (place : Place) (w : World σ) (outcome fresh : World σ × Except BuildError Unit) :
    Prop where
  result : outcome.2 = fresh.2
  service : outcome.1.service = fresh.1.service
  stdout : outcome.1.stdout = fresh.1.stdout
  stderr : outcome.1.stderr = fresh.1.stderr
  records : outcome.1.records = fresh.1.records
  files : outcome.1.files = fresh.1.files.erase place
  /-- The requests of the run are the same. -/
  events : ∃ events, fresh.1.events = w.events ++ events ∧
    outcome.1.events = w.events ++ events.map (Event.transport (·.erase place))
  /-- The directories that were handed out hold the same. -/
  trees : builtTrees outcome.1.events = builtTrees fresh.1.events

namespace Builder

variable {settings : Settings σ} {b : Builder} {w : World σ} {plans : Plan} {place : Place}
  {n : Name}

/-- A run begins with giving up the working directory, and nothing else is left of earlier runs. -/
theorem runPlan_new (settings : Settings σ) (b : Builder) (w : World σ) (hne : plans ≠ []) :
    (b.runPlan settings w plans).2 =
      (Builder.new.runPlan settings (b.release w).2 plans).2 := by
  obtain ⟨plan, rest, rfl⟩ := List.exists_cons_of_ne_nil hne
  unfold runPlan runSection clean
  rw [release_of_none (b := .new) rfl]
  dsimp only
  rcases allocate (b.release w).2 with ⟨w', fault | place⟩
  · rfl
  · rfl

theorem builtTrees_append (events more : List Event) :
    builtTrees (events ++ more) = builtTrees events ++ builtTrees more :=
  List.filterMap_append

theorem builtTrees_transport {f : FileSystem → FileSystem} {events : List Event}
    (h : ∀ dir reference, .build dir reference ∈ events → (dir.transport f).tree = dir.tree) :
    builtTrees (events.map (Event.transport f)) = builtTrees events := by
  unfold builtTrees
  rw [List.filterMap_map]
  refine List.filterMap_congr fun event he => ?_
  cases event with
  | build dir reference => exact congrArg some (h dir reference he)
  | _ => rfl

theorem release_of_unseen (h : Unseen settings w plans place n) (hplace : b.workdir = some place) :
    (b.release w).2 = { w with files := w.files.erase place } := by
  obtain ⟨files, hremove⟩ := h.removable
  obtain ⟨rfl, -⟩ := eq_erase_of_removeWorkdir hremove
  unfold release
  rw [hplace]
  simp [hremove]

theorem aside_of_unseen (h : Unseen settings w plans place n) (hused : b.IsUsed w)
    (hplace : b.workdir = some place) : w.Aside place n := by
  obtain ⟨files, hremove⟩ := h.removable
  refine ⟨h.files, (eq_erase_of_removeWorkdir hremove).2, h.cwd, h.temp, ?_⟩
  obtain ⟨dir, m, hm, hname⟩ := hused place hplace
  have hlast := h.name
  rw [hname, List.getLast?_concat, Option.some.injEq] at hlast
  exact ⟨m, hm, hlast.symm⟩

/-- A run on a builder whose working directory is unseen is that of a new builder. -/
theorem sameRun_of_unseen (hused : b.IsUsed w) (hplace : b.workdir = some place)
    (h : Unseen settings w plans place n) (hne : plans ≠ []) :
    SameRun place w (b.runPlan settings w plans).2 (Builder.new.runPlan settings w plans).2 := by
  -- both runs are those of one run in a world where nothing was asked for yet: only the requests of
  -- the run itself are seen in the other file system, those before it stay as they are
  let w₀ : World σ := { w with events := [] }
  have hw : w₀.transport id w.events = w := by
    simp [w₀, World.transport]
  have hrelease : (b.release w).2 = w₀.without place w.events := by
    rw [release_of_unseen h hplace]
    simp [w₀, World.without, World.transport]
  have haside : w₀.Aside place n :=
    (aside_of_unseen h hused hplace).of_sameFiles ⟨rfl, rfl, rfl, rfl⟩
  have hspares : ∀ before plan after b₁ w₁ b₂ w₂, plans = before ++ plan :: after →
      Builder.new.runPlan settings w₀ before = (b₁, w₁, .ok ()) →
      b₁.clean w₁ = (b₂, w₂, .ok ()) → Spares settings place n plan w₂ := by
    intro before plan after b₁ w₁ b₂ w₂ hplans hbefore hclean
    -- the sections before are the same in `w`, where the root of the context is known
    refine ⟨h.context, h.dockerfiles plan (by simp [hplans]), fun c hcheck => ?_⟩
    have hbefore' := runPlan_transport_id settings .new w₀ w.events before
    have hclean' := clean_transport_id b₁ w₁ w.events
    rw [hw, hbefore] at hbefore'
    rw [hclean] at hclean'
    exact h.roots before plan after _ _ _ _ c hplans hbefore' hclean' hcheck
  obtain ⟨hsame, events, hevents, halike⟩ :=
    runPlan_beside (w := w₀) w.events h.wellFormed haside rfl h.backend hspares
  have hfresh := runPlan_transport_id settings .new w₀ w.events plans
  rw [hw] at hfresh
  have hevents₀ : ∀ f, ((Builder.new.runPlan settings w₀ plans).2.1.transport f w.events).events =
      w.events ++ events.map (Event.transport f) :=
    fun f => congrArg (fun events => w.events ++ List.map (Event.transport f) events) hevents
  rw [runPlan_new settings b w hne, hrelease, hsame, hfresh]
  refine ⟨rfl, rfl, rfl, rfl, rfl, rfl, ⟨events, ?_, hevents₀ _⟩, ?_⟩
  · rw [hevents₀, List.map_congr_left fun event _ => event.transport_id, List.map_id']
  · dsimp only
    rw [hevents₀, hevents₀, builtTrees_append, builtTrees_append,
      builtTrees_transport fun dir reference he => (halike dir reference he).tree,
      builtTrees_transport fun dir reference he => rfl]

theorem workdir_of_runPlan (hne : plans ≠ []) {b' : Builder} {w' : World σ}
    (h : b.runPlan settings w plans = (b', w', .ok ())) : b'.workdir = none := by
  induction plans generalizing b w with
  | nil => exact absurd rfl hne
  | cons plan rest ih =>
    unfold runPlan at h
    split at h
    · cases h
    · rename_i b₁ w₁ hsection
      by_cases hrest : rest = []
      · subst hrest
        obtain ⟨rfl, -⟩ := Prod.mk.inj h
        have houtcome := sectionOutcome settings b plan w
        rw [hsection] at houtcome
        cases houtcome with
        | done => exact workdir_release _ _
      · exact ih hrest h

/-- A builder runs a plan as a new builder does: in the world without the working directory that the
builder holds, and in the same world if that directory is unseen. -/
structure RunsAsNew (settings : Settings σ) (b : Builder) (w : World σ) (plans : Plan) : Prop where
  nothing : plans = [] → b.runPlan settings w plans = (b, w, .ok ())
  released : plans ≠ [] →
    (b.runPlan settings w plans).2 = (Builder.new.runPlan settings (b.release w).2 plans).2
  beside : plans ≠ [] → ∀ place n, b.workdir = some place → Unseen settings w plans place n →
    SameRun place w (b.runPlan settings w plans).2 (Builder.new.runPlan settings w plans).2

end Builder

/-- A section with a step that fails for want of an image. -/
def SectionPlan.failing : SectionPlan :=
  ⟨"app", "Dockerfile", "u", [.tag "app" (.literal "t")]⟩

/-- The settings for the context of all files. -/
def Settings.everything : Settings Unit :=
  { Settings.obliging with context := "/" }

end ImageBuild
