import ImageBuild.Proofs.Builder.Preparation

/-!
# The directories that a backend is given

Every build request of a run belongs to one section (`exists_section_of_event`), and the directory
that it hands out holds what was staged for that section and nothing else
(`holdsStaged_of_runPlan`).
-/

namespace ImageBuild

variable {σ : Type} {settings : Settings σ} {context : BuildDir} {b b' : Builder} {w w' : World σ}
  {plan : SectionPlan} {plans : Plan} {s s' : σ}

/-! ## What a run keeps -/

/-- What every part of a run keeps: file systems stay well-formed, the working directory of the
process stays where it is, and requests that were made stay made. -/
structure World.Kept (w w' : World σ) : Prop where
  wellFormed : w'.files.WellFormed
  cwd : w'.cwd = w.cwd
  events : w.events <+: w'.events

theorem World.Kept.trans {w'' : World σ} (h : w.Kept w') (h' : w'.Kept w'') : w.Kept w'' :=
  ⟨h'.wellFormed, h'.cwd.trans h.cwd, h.events.trans h'.events⟩

theorem World.Quiet.kept (h : w.Quiet w') (hw : w'.files.WellFormed) : w.Kept w' :=
  ⟨hw, h.cwd, h.events ▸ List.prefix_rfl⟩

theorem World.Moved.kept {events : List Event} (h : w.Moved events s w')
    (hw : w.files.WellFormed) : w.Kept w' :=
  ⟨h.sameFiles.files ▸ hw, h.sameFiles.cwd, h.events ▸ List.prefix_append _ _⟩

theorem Prepared.kept {b₁ : Builder} {w₁ w₂ : World σ} {place : Place}
    (h : Prepared settings b plan w b₁ w₁ place w₂) (hw : w.files.WellFormed) : w.Kept w₂ := by
  obtain ⟨c, -, -, hstaged⟩ := h.staged hw
  exact h.quiet.kept hstaged.wellFormed

namespace Builder

theorem kept_runSection (settings : Settings σ) (b : Builder) (plan : SectionPlan)
    (hw : w.files.WellFormed) : w.Kept (runSection settings b plan w).2.1 := by
  have houtcome := sectionOutcome settings b plan w
  generalize runSection settings b plan w = r at houtcome
  cases houtcome with
  | noWorkdir hclean =>
    have hwf := wellFormed_clean b hw
    rw [hclean] at hwf
    exact (quiet_of_clean hclean).kept hwf
  | notStaged hclean hsetup =>
    obtain ⟨place, hplace, -⟩ := allocate_of_clean hclean
    refine ((quiet_of_clean hclean).trans (quiet_of_setup hsetup)).kept ?_
    rcases setup_after_clean settings plan hw hclean hplace with ⟨fault, -, hrefused⟩ |
      ⟨c, result, -, -, hstaged, -⟩
    · rw [hsetup] at hrefused
      rw [(Prod.mk.inj hrefused).1]
      exact (allocated_of_clean hw hclean hplace).1
    · rw [hsetup] at hstaged
      exact hstaged.wellFormed
  | failed hprepared hsteps hmoved =>
    have hkept := hprepared.kept hw
    exact hkept.trans (hmoved.kept hkept.wellFormed)
  | done hprepared hsteps hreclaim hmoved =>
    have hkept := hprepared.kept hw
    have hkept' := hkept.trans (hmoved.kept hkept.wellFormed)
    exact hkept'.trans ((quiet_release _ _).kept (wellFormed_release _ hkept'.wellFormed))

theorem kept_runPlan (settings : Settings σ) (b : Builder) (plans : Plan)
    (hw : w.files.WellFormed) : w.Kept (b.runPlan settings w plans).2.1 := by
  induction plans generalizing b w with
  | nil => exact (World.Quiet.refl w).kept hw
  | cons plan rest ih =>
    have hsection := kept_runSection settings b plan hw
    unfold runPlan
    split
    · rename_i heq
      rwa [heq] at hsection
    · rename_i heq
      rw [heq] at hsection
      exact hsection.trans (ih _ hsection.wellFormed)

end Builder

/-! ## Build requests -/

theorem SectionRun.eq_of_build_mem {earlier attempts : List (Attempt σ)} {steps : List ImageStep}
    {result : Except BuildError (Option String)}
    (h : SectionRun settings context earlier steps s attempts s' result) {dir : BuildDir}
    {reference : String} (he : Event.build dir reference ∈ attempts.flatMap (·.events)) :
    dir = context := by
  obtain ⟨a, ha, he⟩ := List.mem_flatMap.1 he
  obtain ⟨xs, ys, hattempts⟩ := List.append_of_mem ha
  exact (h.attempt hattempts).1.eq_of_build_mem he

theorem Reclaim.build_not_mem {uuid : String} {cleanup : List Event}
    (h : Reclaim settings uuid s cleanup s') (dir : BuildDir) (reference : String) :
    Event.build dir reference ∉ cleanup := by
  cases h <;> simp

/-- A build request of a section is made when the section is prepared, and hands out its working
directory. -/
theorem Builder.prepared_of_build_mem {events : List Event} {dir : BuildDir} {reference : String}
    (hevents : (runSection settings b plan w).2.1.events = w.events ++ events)
    (he : Event.build dir reference ∈ events) :
    ∃ b₁ w₁ place w₂, Prepared settings b plan w b₁ w₁ place w₂ ∧
      dir = ⟨w₂.files, w₂.cwd, place.text⟩ := by
  have houtcome := sectionOutcome settings b plan w
  generalize runSection settings b plan w = r at houtcome hevents
  cases houtcome with
  | noWorkdir hclean =>
    rw [(quiet_of_clean hclean).events, List.self_eq_append_right] at hevents
    simp [hevents] at he
  | notStaged hclean hsetup =>
    have hquiet := (quiet_of_clean hclean).trans (quiet_of_setup hsetup)
    rw [hquiet.events, List.self_eq_append_right] at hevents
    simp [hevents] at he
  | failed hprepared hsteps hmoved =>
    rw [hmoved.events, hprepared.quiet.events, List.append_cancel_left_eq] at hevents
    exact ⟨_, _, _, _, hprepared, hsteps.eq_of_build_mem (hevents ▸ he)⟩
  | done hprepared hsteps hreclaim hmoved =>
    rename_i b₁ w₁ w₂ w₃ place attempts image cleanup s s'
    have hrelease := quiet_release (b₁.bind plan) w₃
    dsimp only at hevents
    rw [hrelease.events, hmoved.events, hprepared.quiet.events, List.append_cancel_left_eq]
      at hevents
    rw [← hevents] at he
    have hsteps' := (List.mem_append.1 he).resolve_right (hreclaim.build_not_mem dir reference)
    exact ⟨_, _, _, _, hprepared, hsteps.eq_of_build_mem hsteps'⟩

/-- Every request of a run is made in some section, after the sections before it. -/
theorem Builder.exists_section_of_event (hw : w.files.WellFormed) {earlier later : List Event}
    {event : Event} (hrun : (b.runPlan settings w plans).2.1.events = earlier ++ event :: later)
    (hnew : w.events <+: earlier) :
    ∃ before plan after b₁ w₁, plans = before ++ plan :: after ∧
      b.runPlan settings w before = (b₁, w₁, .ok ()) ∧ w₁.events <+: earlier ∧
      earlier ++ [event] <+: (runSection settings b₁ plan w₁).2.1.events := by
  have hat : ∀ {events : List Event}, events = earlier ++ event :: later →
      earlier ++ [event] <+: events := fun h => ⟨later, by simp [h]⟩
  induction plans generalizing b w with
  | nil =>
    have hlen := hnew.length_le
    have hlen' : w.events.length = (earlier ++ event :: later).length := congrArg List.length hrun
    rw [List.length_append, List.length_cons] at hlen'
    omega
  | cons plan rest ih =>
    have hkept := kept_runSection settings b plan hw
    rcases hsection : runSection settings b plan w with ⟨b', w', result⟩
    rw [hsection] at hkept
    rw [runPlan, hsection] at hrun
    cases result with
    | error e =>
      exact ⟨[], plan, rest, b, w, rfl, rfl, hnew, hsection ▸ hat hrun⟩
    | ok _ =>
      have hrest := (kept_runPlan settings b' rest hkept.wellFormed).events
      -- either the request is made in this section, or after it
      rcases List.prefix_or_prefix_of_prefix (hat hrun) hrest with hhere | hlater
      · exact ⟨[], plan, rest, b, w, rfl, rfl, hnew, hsection ▸ hhere⟩
      · rcases List.prefix_concat_iff.1 hlater with hlast | hlater
        · exact ⟨[], plan, rest, b, w, rfl, rfl, hnew, hsection ▸ hlast ▸ List.prefix_rfl⟩
        · obtain ⟨before, plan', after, b₁, w₁, rfl, hbefore, hw₁, hevent⟩ :=
            ih hkept.wellFormed hrun hlater
          refine ⟨plan :: before, plan', after, b₁, w₁, rfl, ?_, hw₁, hevent⟩
          rw [runPlan, hsection]
          exact hbefore

/-- The directory that a build request of a run hands out holds what is staged for its section, from
the files as they were when the section was set up, and nothing else. -/
theorem holdsStaged_of_runPlan (settings : Settings σ) (b : Builder) (w : World σ) (plans : Plan)
    (hw : w.files.WellFormed) {earlier later : List Event} {dir : BuildDir} {reference : String}
    (hrun : (b.runPlan settings w plans).2.1.events = earlier ++ .build dir reference :: later)
    (hnew : w.events <+: earlier) :
    ∃ before plan after b₁ w₁ c, plans = before ++ plan :: after ∧
      b.runPlan settings w before = (b₁, w₁, .ok ()) ∧ w₁.events <+: earlier ∧
      earlier ++ [.build dir reference] <+: (b₁.runSection settings plan w₁).2.1.events ∧
      Sandbox.check (b₁.clean w₁).2.1.files w.cwd plan.dockerfile settings.context = .ok c ∧
      c.IsInside (b₁.clean w₁).2.1.files w.cwd settings.context ∧
      dir.HoldsStaged (b₁.clean w₁).2.1.files c := by
  obtain ⟨before, plan, after, b₁, w₁, hplans, hbefore, hw₁, hevent⟩ :=
    Builder.exists_section_of_event hw hrun hnew
  have hkept := Builder.kept_runPlan settings b before hw
  rw [hbefore] at hkept
  obtain ⟨events, hevents⟩ := (Builder.kept_runSection settings b₁ plan hkept.wellFormed).events
  have hmem : Event.build dir reference ∈ events := by
    obtain ⟨more, rfl⟩ := hw₁
    rw [← hevents, List.append_assoc, List.prefix_append_right_inj] at hevent
    exact hevent.subset (by simp)
  obtain ⟨b₂, w₂, place, w₃, hprepared, rfl⟩ :=
    Builder.prepared_of_build_mem hevents.symm hmem
  obtain ⟨c, hcheck, hinside, hstaged⟩ := hprepared.staged hkept.wellFormed
  have hholds := hprepared.holdsStaged hkept.wellFormed hstaged
  have hclean : (b₁.clean w₁).2.1 = w₂ := by rw [hprepared.clean]
  have hcwd : w₂.cwd = w.cwd := (Builder.quiet_of_clean hprepared.clean).cwd.trans hkept.cwd
  rw [hcwd] at hcheck hinside
  exact ⟨before, plan, after, b₁, w₁, c, hplans, hbefore, hw₁, hevent, hclean ▸ hcheck,
    hclean ▸ hinside, hclean ▸ hholds⟩

/-- What the directories hold that build requests hand out, in order. -/
def builtTrees (events : List Event) : List Tree :=
  events.filterMap fun
    | .build dir _ => some dir.tree
    | _ => none

/-- A backend that does whatever it is asked for, and finds nothing. -/
def Backend.obliging : Backend Unit where
  build _ _ _ := ⟨(), [], .ok "id"⟩
  tag _ _ _ _ := ⟨(), [], .ok ()⟩
  push _ _ _ := ⟨(), [], .ok ()⟩
  find _ _ := ⟨(), [], .ok none⟩
  removeReference _ _ := ⟨(), [], .ok ()⟩

/-- The settings for a context at `/ctx`. -/
def Settings.obliging : Settings Unit :=
  ⟨"/ctx", some .obliging, FixedAnswers.provider ⟨none, none, none⟩, false⟩

/-- A world with a context that has a dockerfile and a link whose target has an empty part. -/
def World.linked : World Unit where
  files := ⟨[(["tmp"], .dir 0o755), (["ctx"], .dir 0o755),
    (["ctx", "Dockerfile"], .file [70] 0o644 ⟨1, 5⟩), (["ctx", "link"], .link "a//b")]⟩
  cwd := []
  temp := "/tmp"
  serial := 1
  service := ()
  stdout := .discard
  stderr := .discard
  records := []
  events := []

/-- A section that builds an image from a dockerfile. -/
def SectionPlan.building (dockerfile : String) : SectionPlan :=
  ⟨"app", dockerfile, "u", [.build "app:u"]⟩

theorem holdsStaged_linked : ∃ dir reference later fs c,
    (Builder.new.runPlan .obliging .linked [.building "Dockerfile"]).2.1.events =
        [] ++ .build dir reference :: later ∧
      c.IsInside fs [] "/ctx" ∧ dir.HoldsStaged fs c := by
  have hfirst : ((Builder.new.runPlan .obliging .linked [.building "Dockerfile"]).2.1.events.head?.any
      fun event => (builtTrees [event]).length = 1) = true := by decide +kernel
  cases hrun : (Builder.new.runPlan .obliging .linked [.building "Dockerfile"]).2.1.events with
  | nil =>
    rw [hrun] at hfirst
    cases hfirst
  | cons event later =>
    rw [hrun] at hfirst
    cases event with
    | build dir reference =>
      have hw : World.linked.files.WellFormed := by decide +kernel
      obtain ⟨-, plan, -, b₁, w₁, c, -, -, -, -, -, hinside, hholds⟩ :=
        holdsStaged_of_runPlan .obliging .new .linked [.building "Dockerfile"] hw
          (hrun.trans (List.nil_append _).symm) List.prefix_rfl
      exact ⟨dir, reference, later, _, c, rfl, hinside, hholds⟩
    | _ => cases hfirst

/-- The target of a link is not always kept: an archive stores it without empty parts. -/
theorem link_target_not_kept :
    World.linked.files.lookup ["ctx", "link"] = some (.link "a//b") ∧
      ∃ tree ∈ builtTrees (Builder.new.runPlan .obliging .linked
          [.building "Dockerfile"]).2.1.events,
        (["link"], .link "a/b") ∈ tree ∧ (["link"], .link "a//b") ∉ tree := by
  decide +kernel

/-! ## Dockerfiles -/

/-- An accepted dockerfile is a regular file below the root. So what a run puts into a working
directory under the name of the dockerfile is such a file, and a section whose dockerfile is refused
ends the run before anything is asked of the backend. -/
theorem dockerfile_contained (settings : Settings σ) :
    (∀ (fs : FileSystem) (cwd : Place) (file root : String) (c : Contained), fs.WellFormed →
      Sandbox.check fs cwd file root = .ok c → c.IsInside fs cwd root) ∧
    ∀ (b b₁ b₂ : Builder) (w w₁ w₂ : World σ) (before after : Plan) (plan : SectionPlan)
      (workdir : Place), w.files.WellFormed →
      b.runPlan settings w before = (b₁, w₁, .ok ()) → b₁.clean w₁ = (b₂, w₂, .ok ()) →
      b₂.workdir = some workdir →
        (∀ node, (Builder.setup settings (b₂.bind plan) w₂).1.files.lookup
            (workdir ++ [dockerfileName]) = some node →
          ∃ c : Contained, c.IsInside w₂.files w₂.cwd settings.context ∧
            w₂.files.lookup c.file = some node) ∧
        ∀ fault,
          Sandbox.check w₂.files w₂.cwd plan.dockerfile settings.context = .error fault →
            b.runPlan settings w (before ++ plan :: after) =
                (b₂.bind plan, w₂, .error (.sandbox fault)) ∧
              w₂.events = w₁.events := by
  refine ⟨fun fs cwd file root c hfs hcheck => Sandbox.isInside_of_check hfs hcheck, ?_⟩
  intro b b₁ b₂ w w₁ w₂ before after plan workdir hw hbefore hclean hworkdir
  have hkept := Builder.kept_runPlan settings b before hw
  rw [hbefore] at hkept
  obtain ⟨hwf, hnew⟩ := Builder.allocated_of_clean hkept.wellFormed hclean hworkdir
  have hcases := Builder.setup_after_clean settings plan hkept.wellFormed hclean hworkdir
  refine ⟨?_, ?_⟩
  · intro node hnode
    rcases hcases with ⟨fault, -, hrefused⟩ | ⟨c, result, -, hinside, hstaged, -⟩
    · rw [hrefused, hnew.empty _ (by simp)] at hnode
      cases hnode
    · exact ⟨c, hinside, hstaged.dockerfile node hnode⟩
  · intro fault hfault
    rcases hcases with ⟨fault', hcheck, hrefused⟩ | ⟨c, result, hcheck, -⟩
    · obtain rfl : fault = fault' := by
        rw [hfault, Except.error.injEq] at hcheck
        exact hcheck
      refine ⟨?_, (Builder.quiet_of_clean hclean).events⟩
      rw [Builder.runPlan_append _ hbefore, Builder.runPlan, Builder.runSection, hclean]
      simp only [hrefused]
    · rw [hfault] at hcheck
      cases hcheck

theorem dockerfile_contained_linked :
    (Contained.mk ["ctx", "Dockerfile"] ["ctx"]).IsInside World.linked.files [] "/ctx" ∧
      ∃ b₂ w₂ fault, Builder.new.runPlan .obliging .linked [.building "../tmp/x"] =
        (b₂, w₂, .error (.sandbox fault)) ∧ w₂.events = [] := by
  have hw : World.linked.files.WellFormed := by decide +kernel
  refine ⟨(dockerfile_contained .obliging).1 _ _ "Dockerfile" _ _ hw (by decide +kernel), ?_⟩
  have hok : (Builder.new.clean World.linked).2.2.isOk = true := by decide +kernel
  have hfault : Sandbox.check (Builder.new.clean World.linked).2.1.files
      (Builder.new.clean World.linked).2.1.cwd "../tmp/x" "/ctx" =
      .error (.escape "../tmp/x" "/ctx") := by decide +kernel
  rcases hclean : Builder.new.clean World.linked with ⟨b₂, w₂, e | _⟩
  · rw [hclean] at hok
    cases hok
  · rw [hclean] at hfault
    obtain ⟨place, hplace, -⟩ := Builder.allocate_of_clean hclean
    obtain ⟨hrun, hevents⟩ := ((dockerfile_contained .obliging).2 .new .new b₂ .linked .linked w₂ []
      [] (.building "../tmp/x") place hw rfl hclean hplace).2 _ hfault
    exact ⟨_, w₂, _, hrun, hevents⟩

end ImageBuild
