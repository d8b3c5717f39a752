import ImageBuild.Backend.Daemon
import ImageBuild.Backend.Memory
import ImageBuild.Proofs.Builder.Transport
import ImageBuild.Proofs.StagingBeside

/-!
# Runs beside a leftover

A working directory that an earlier run left behind is aside for the runs after it: it has a name
that is used up (`World.Aside`). A run does the same with and without it, up to the leftover itself
(`runPlan_beside`), if the context does not hold it, nothing names it and the backend sees no more
than what the directory holds that it is given (`Backend.Local`).
-/

namespace ImageBuild

variable {σ : Type} {n : Name} {place : Place} {past : List Event}

/-! ## What backends see -/

/-- Directories that have the same path and hold the same. -/
structure BuildDir.Alike (dir dir' : BuildDir) : Prop where
  path : dir.path = dir'.path
  tree : dir.tree = dir'.tree
  archive : (dir.files.archive dir.cwd dir.path).2 = (dir'.files.archive dir'.cwd dir'.path).2

/-- A backend that sees no more of a directory than what it holds. -/
def Backend.Local (backend : Backend σ) : Prop :=
  ∀ s dir dir' reference, BuildDir.Alike dir dir' →
    backend.build s dir reference = backend.build s dir' reference

theorem ImageStore.local_backend : ImageStore.backend.Local :=
  fun _ _ _ _ _ => rfl

theorem Daemon.local_backend : Daemon.backend.Local := by
  intro daemon dir dir' reference h
  show daemon.build dir reference = daemon.build dir' reference
  unfold Daemon.build
  rw [h.archive, h.path]

/-! ## Worlds with a leftover -/

/-- A directory in a file system without what stands at a place. -/
abbrev BuildDir.without (place : Place) (dir : BuildDir) : BuildDir :=
  dir.transport (·.erase place)

/-- A world without what stands at a place, and after other requests. -/
abbrev World.without (place : Place) (past : List Event) (w : World σ) : World σ :=
  w.transport (·.erase place) past

/-- A place that a run in a world does not come to: the name of a working directory that is used up
stands at its end, and nothing names it. -/
structure World.Aside (w : World σ) (place : Place) (n : Name) : Prop where
  files : w.files.Aside place n
  stands : w.files.lookup place ≠ none
  cwd : n ∉ w.cwd
  temp : ¬ NamedIn n w.temp
  used : ∃ m < w.serial, n = Builder.workdirName m

theorem World.Aside.of_sameFiles {w w' : World σ} (h : w.Aside place n) (hsame : w.SameFiles w') :
    w'.Aside place n := by
  obtain ⟨hfiles, hcwd, htemp, hserial⟩ := hsame
  exact ⟨hfiles ▸ h.files, hfiles ▸ h.stands, hcwd ▸ h.cwd, htemp ▸ h.temp, hserial ▸ h.used⟩

namespace Builder

variable {settings : Settings σ} {b b₁ : Builder} {w w₁ : World σ} {fs : FileSystem} {q : Place}
  {plan : SectionPlan}

theorem workdirName_ne_dockerfileName (m : Nat) : workdirName m ≠ dockerfileName := by
  intro h
  have hprefix : workdirPrefix.toList = 'b' :: "uild-runner-".toList := by decide +kernel
  have hdockerfile : dockerfileName.toList = 'D' :: "ockerfile".toList := by decide +kernel
  have hlist := congrArg String.toList h
  rw [workdirName_toList, paddedName, hprefix, hdockerfile, List.cons_append] at hlist
  exact absurd (List.cons.inj hlist).1 (by decide)

/-! ## Working directories -/

theorem removeWorkdir_erase (hn : n ∈ place) (hq : n ∉ q) :
    removeWorkdir (fs.erase place) q = (removeWorkdir fs q).map (·.erase place) := by
  unfold removeWorkdir
  rw [FileSystem.lookup_erase_of_not_mem fs hn hq]
  split
  · rfl
  · rw [FileSystem.erase_erase]
    rfl
  · rw [FileSystem.erase_erase]
    rfl
  · rfl

theorem eq_erase_of_removeWorkdir {files : FileSystem} (h : removeWorkdir fs q = .ok files) :
    files = fs.erase q ∧ fs.lookup q ≠ none := by
  unfold removeWorkdir at h
  split at h
  · cases h
  · rename_i hl
    exact ⟨(Except.ok.inj h).symm, by simp [hl]⟩
  · rename_i hl
    exact ⟨(Except.ok.inj h).symm, by simp [hl]⟩
  · cases h

theorem release_without (hn : n ∈ place) (hq : b.workdir = some q) (hnq : n ∉ q) (w : World σ) :
    b.release (w.without place past) = ((b.release w).1, (b.release w).2.without place past) := by
  have hremove : removeWorkdir (w.files.erase place) q =
      (removeWorkdir w.files q).map (·.erase place) := removeWorkdir_erase hn hnq
  unfold release
  rw [hq]
  dsimp only
  rw [show removeWorkdir (w.without place past).files q = _ from hremove]
  cases removeWorkdir w.files q <;> rfl

theorem release_of_none (hb : b.workdir = none) (w : World σ) : b.release w = (b, w) := by
  unfold release
  rw [hb]

/-- The free name does not depend on a place aside. -/
theorem freeNumber_erase {dir : Place} {serial : Nat} (hn : n ∈ place) (hdir : n ∉ dir)
    (hused : ∃ m < serial, n = workdirName m) :
    freeNumber (fs.erase place) dir serial = freeNumber fs dir serial := by
  obtain ⟨m, hm, rfl⟩ := hused
  have hlookup : ∀ k, (fs.erase place).lookup (dir ++ [workdirName (serial + k)]) =
      fs.lookup (dir ++ [workdirName (serial + k)]) := by
    intro k
    refine FileSystem.lookup_erase_of_not_mem fs hn (FileSystem.not_mem_concat hdir fun h => ?_)
    have := workdirName_injective h
    omega
  have hlen : (fs.erase place).nodes.length ≤ fs.nodes.length := List.length_filter_le _ _
  have hfree := lookup_freeNumber (fs.erase place) dir serial
  obtain ⟨more, hrange⟩ : List.range ((fs.erase place).nodes.length + 1) <+:
      List.range (fs.nodes.length + 1) := by
    have htake := List.take_prefix ((fs.erase place).nodes.length + 1)
      (List.range (fs.nodes.length + 1))
    rwa [List.take_range, Nat.min_eq_left (by omega)] at htake
  unfold freeNumber at hfree ⊢
  simp only [hlookup] at hfree ⊢
  rw [← hrange, List.find?_append]
  cases hfind : (List.range ((fs.erase place).nodes.length + 1)).find?
      fun k => (fs.lookup (dir ++ [workdirName (serial + k)])).isNone with
  | some k => rfl
  | none =>
    rw [hfind] at hfree
    have hzero := List.find?_eq_none.1 hfind 0 (List.mem_range.2 (Nat.succ_pos _))
    exact absurd (Option.isNone_iff_eq_none.2 hfree) hzero

/-- The free name is none that is used up. -/
theorem ne_freeNumber {dir : Place} {serial : Nat} (hused : ∃ m < serial, n = workdirName m) :
    n ≠ workdirName (freeNumber fs dir serial) := by
  obtain ⟨m, hm, rfl⟩ := hused
  intro h
  have hnumber := workdirName_injective h
  have hle := le_freeNumber fs dir serial
  omega

theorem allocate_without (h : w.Aside place n) :
    allocate (w.without place past) = ((allocate w).1.without place past, (allocate w).2) := by
  have htemp := mt Path.namedIn_of_mem_steps h.temp
  have hresolve : (w.without place past).files.resolve (w.without place past).cwd
      (w.without place past).temp = w.files.resolve w.cwd w.temp :=
    h.files.resolve_erase h.cwd htemp
  unfold allocate
  rw [hresolve]
  cases hdir : w.files.resolve w.cwd w.temp with
  | error fault => rfl
  | ok dir =>
    have hn := h.files.not_mem_of_resolve h.cwd htemp hdir
    have hisDir : (w.without place past).files.isDirAt dir = w.files.isDirAt dir :=
      FileSystem.isDirAt_erase_of_not_mem w.files h.files.name hn
    have hfree : freeNumber (w.without place past).files dir (w.without place past).serial =
        freeNumber w.files dir w.serial := freeNumber_erase h.files.name hn h.used
    dsimp only
    rw [hisDir, hfree]
    split_ifs
    · rfl
    · rfl
    · unfold World.without World.transport
      dsimp only
      rw [FileSystem.erase_insert w.files h.files.name
        (FileSystem.not_mem_concat hn (ne_freeNumber h.used))]

/-- The new working directory has another name than the leftover, which stays aside. -/
theorem aside_of_allocate (h : w.Aside place n) (ha : allocate w = (w₁, .ok q)) :
    n ∉ q ∧ w₁.Aside place n := by
  obtain ⟨dir, hdir, -, hq, -, rfl⟩ := allocate_eq_ok ha
  have hn := h.files.not_mem_of_resolve h.cwd (mt Path.namedIn_of_mem_steps h.temp) hdir
  have hnq : n ∉ q := hq ▸ FileSystem.not_mem_concat hn (ne_freeNumber h.used)
  have hnode : ¬ (Node.dir workdirMode).LinksBy n := by
    rintro ⟨target, htarget, -⟩
    cases htarget
  have hplace : place ≠ q := by
    rintro rfl
    exact hnq h.files.name
  refine ⟨hnq, h.files.insert hnq hnode, ?_, h.cwd, h.temp, ?_⟩
  · rw [FileSystem.lookup_insert_of_ne w.files _ (by simp [hq]) hplace]
    exact h.stands
  · obtain ⟨m, hm, hname⟩ := h.used
    exact ⟨m, Nat.lt_succ_of_lt (hm.trans_le (le_freeNumber w.files dir w.serial)), hname⟩

theorem clean_without (h : w.Aside place n) (hb : b.workdir = none) :
    b.clean (w.without place past) =
      ((b.clean w).1, (b.clean w).2.1.without place past, (b.clean w).2.2) := by
  unfold clean
  rw [release_of_none hb, release_of_none hb]
  dsimp only
  rw [allocate_without h]
  rcases allocate w with ⟨w₁, fault | q⟩ <;> rfl

/-! ## Sections -/

/-- What a section may name and hold if it is to be run beside a leftover. -/
structure Spares (settings : Settings σ) (place : Place) (n : Name) (plan : SectionPlan)
    (w₁ : World σ) : Prop where
  context : ¬ NamedIn n settings.context
  dockerfile : ¬ NamedIn n plan.dockerfile
  root : ∀ c, Sandbox.check w₁.files w₁.cwd plan.dockerfile settings.context = .ok c →
    ¬ c.root <+: place

theorem setup_without (past : List Event) (hw : w.files.WellFormed)
    (hclean : b.clean w = (b₁, w₁, .ok ())) (hplace : b₁.workdir = some q)
    (h : w₁.Aside place n) (hq : n ∉ q) (hup : ¬ q <+: place)
    (hspares : Spares settings place n plan w₁) :
    setup settings (b₁.bind plan) (w₁.without place past) =
        ((setup settings (b₁.bind plan) w₁).1.without place past,
          (setup settings (b₁.bind plan) w₁).2) ∧
      (setup settings (b₁.bind plan) w₁).1.Aside place n := by
  obtain ⟨hw₁, hnew⟩ := allocated_of_clean hw hclean hplace
  obtain ⟨m, -, hname⟩ := h.used
  have hne : n ≠ "" := hname ▸ (isEntryName_workdirName m).1
  have hdockerfile : n ≠ dockerfileName := hname ▸ workdirName_ne_dockerfileName m
  have hcheck := h.files.check_erase hw₁ hne h.cwd hspares.dockerfile hspares.context
  have hverdict : (TrustedFile.ofPath plan.dockerfile settings.context).verdict
      (w₁.without place past).files (w₁.without place past).cwd =
      (TrustedFile.ofPath plan.dockerfile settings.context).verdict w₁.files w₁.cwd := hcheck
  unfold setup bind
  dsimp only
  rw [hverdict, hplace]
  cases hresult : (TrustedFile.ofPath plan.dockerfile settings.context).verdict w₁.files w₁.cwd with
  | error fault => exact ⟨rfl, h⟩
  | ok c =>
    obtain ⟨hroot, hfile⟩ :=
      h.files.not_mem_of_check hw₁ hne h.cwd hspares.dockerfile hspares.context hresult
    have hinside := Sandbox.isInside_of_check hw₁ hresult
    obtain ⟨hstage, h'⟩ := h.files.stage hw₁ hinside.root_resolved hne hdockerfile hroot
      (hspares.root c hresult) hfile hq
    have hstaged := hw₁.stage hinside.root_resolved hinside.isFile hnew.isDir hnew.empty
    have hstands := (hstaged.outside place fun hprefix => hup hprefix.1).trans_ne h.stands
    dsimp only
    rw [show (w₁.without place past).files.stage c q = _ from hstage]
    rcases hfiles : w₁.files.stage c q with ⟨records, files, fault | _⟩
    · rw [hfiles] at h' hstands
      exact ⟨rfl, h', hstands, h.cwd, h.temp, h.used⟩
    · rw [hfiles] at h' hstands
      exact ⟨rfl, h', hstands, h.cwd, h.temp, h.used⟩

/-- The leftover stays aside when the working directory of a section is given up. -/
theorem aside_of_release (h : w.Aside place n) (hplace : b.workdir = some q)
    (hup : ¬ q <+: place) : (b.release w).2.Aside place n := by
  unfold release
  rw [hplace]
  dsimp only
  split
  · rename_i files hremove
    obtain ⟨rfl, -⟩ := eq_erase_of_removeWorkdir hremove
    refine ⟨h.files.erase q, ?_, h.cwd, h.temp, h.used⟩
    rw [FileSystem.lookup_erase, if_neg fun hprefix => hup hprefix.2]
    exact h.stands
  · exact ⟨h.files, h.stands, h.cwd, h.temp, h.used⟩

/-- The working directory of a section is a place of its own, and the leftover stays aside. -/
theorem aside_of_clean (hw : w.files.WellFormed) (h : w.Aside place n) (hb : b.workdir = none)
    (hclean : b.clean w = (b₁, w₁, .ok ())) (hplace : b₁.workdir = some q) :
    n ∉ q ∧ ¬ q <+: place ∧ w₁.Aside place n := by
  obtain ⟨q', hq', hallocate⟩ := allocate_of_clean hclean
  obtain rfl : q' = q := Option.some.inj (hq'.symm.trans hplace)
  rw [release_of_none hb] at hallocate
  obtain ⟨hq, h₁⟩ := aside_of_allocate h hallocate
  refine ⟨hq, fun hprefix => ?_, h₁⟩
  have hfree := (allocated_of_allocate hw hallocate).2.free
  exact h.stands (hw.lookup_eq_none_of_prefix hfree hprefix)

end Builder

variable {settings : Settings σ} {b b₁ : Builder} {w w₁ w₂ : World σ} {q : Place}
  {plan : SectionPlan}

/-- The working directory of a section holds the same with and without the leftover. -/
theorem Prepared.alike_without (hw : w.files.WellFormed)
    (hprepared : Prepared settings b plan w b₁ w₁ q w₂) (h : w₂.Aside place n) (hq : n ∉ q)
    (hup : ¬ q <+: place) :
    BuildDir.Alike (BuildDir.without place ⟨w₂.files, w₂.cwd, q.text⟩)
      ⟨w₂.files, w₂.cwd, q.text⟩ := by
  obtain ⟨hne, hdir, hresolved, hresolve⟩ := hprepared.resolve_workdir hw
  obtain ⟨m, -, hname⟩ := h.used
  have htext : ¬ NamedIn n q.text :=
    Place.not_namedIn_text (hname ▸ (Builder.isEntryName_workdirName m).1)
      (fun name hmem => (hresolved.named name hmem).2.2.2.1) hq
  have hresolve' : (w₂.files.erase place).resolve w₂.cwd q.text = .ok q :=
    (h.files.resolve_erase h.cwd (mt Path.namedIn_of_mem_steps htext)).trans hresolve
  have hdir' : (w₂.files.erase place).isDirAt q = true :=
    (FileSystem.isDirAt_erase_of_not_mem w₂.files h.files.name hq).trans hdir
  refine ⟨rfl, ?_, ?_⟩
  · show BuildDir.tree ⟨w₂.files.erase place, w₂.cwd, q.text⟩ = _
    rw [BuildDir.tree_eq_below ⟨w₂.files, w₂.cwd, q.text⟩ hresolve hdir,
      BuildDir.tree_eq_below ⟨w₂.files.erase place, w₂.cwd, q.text⟩ hresolve' hdir']
    exact FileSystem.below_erase w₂.files hup fun hup => hq (hup.subset h.files.name)
  · show ((w₂.files.erase place).archive w₂.cwd q.text).2 = (w₂.files.archive w₂.cwd q.text).2
    rw [h.files.archive_erase hresolved hq hup h.cwd]

namespace Builder

theorem aside_of_prepared (hw : w.files.WellFormed) (h : w.Aside place n) (hb : b.workdir = none)
    (hspares : ∀ b₁ w₁, b.clean w = (b₁, w₁, .ok ()) → Spares settings place n plan w₁)
    (hprepared : Prepared settings b plan w b₁ w₁ q w₂) :
    n ∉ q ∧ ¬ q <+: place ∧ w₂.Aside place n := by
  obtain ⟨hq, hup, h₁⟩ := aside_of_clean hw h hb hprepared.clean hprepared.workdir
  have h₂ := (setup_without [] hw hprepared.clean hprepared.workdir h₁ hq hup
    (hspares b₁ w₁ hprepared.clean)).2
  rw [hprepared.setup] at h₂
  exact ⟨hq, hup, h₂⟩

/-- A section is prepared the same with and without the leftover. -/
theorem carries_without (hw : w.files.WellFormed) (h : w.Aside place n) (hb : b.workdir = none)
    (hlocal : ∀ backend, settings.backend = some backend → backend.Local)
    (hspares : ∀ b₁ w₁, b.clean w = (b₁, w₁, .ok ()) → Spares settings place n plan w₁) :
    Carries settings (·.erase place) past b plan w := by
  refine ⟨clean_without h hb, fun b₁ w₁ hclean => ?_, ?_, ?_⟩
  · obtain ⟨q, hplace, -⟩ := allocate_of_clean hclean
    obtain ⟨hq, hup, h₁⟩ := aside_of_clean hw h hb hclean hplace
    exact (setup_without past hw hclean hplace h₁ hq hup (hspares b₁ w₁ hclean)).1
  · intro b₁ w₁ q w₂ hprepared backend hbackend s reference
    obtain ⟨hq, hup, h₂⟩ := aside_of_prepared hw h hb hspares hprepared
    exact hlocal backend hbackend s _ _ reference (hprepared.alike_without hw h₂ hq hup)
  · intro b₁ w₁ q w₂ w₃ hprepared
    obtain ⟨hq, -, -⟩ := aside_of_prepared hw h hb hspares hprepared
    exact release_without (b := b₁.bind plan) h.files.name hprepared.workdir hq w₃

/-- Every directory that a section hands out holds the same with and without the leftover. -/
theorem alike_of_runSection (hw : w.files.WellFormed) (h : w.Aside place n) (hb : b.workdir = none)
    (hspares : ∀ b₁ w₁, b.clean w = (b₁, w₁, .ok ()) → Spares settings place n plan w₁) :
    ∃ events, (runSection settings b plan w).2.1.events = w.events ++ events ∧
      ∀ dir reference, .build dir reference ∈ events → (dir.without place).Alike dir := by
  obtain ⟨events, hevents⟩ := (kept_runSection settings b plan hw).events
  refine ⟨events, hevents.symm, fun dir reference he => ?_⟩
  obtain ⟨b₁, w₁, q, w₂, hprepared, rfl⟩ := prepared_of_build_mem hevents.symm he
  obtain ⟨hq, hup, h₂⟩ := aside_of_prepared hw h hb hspares hprepared
  exact hprepared.alike_without hw h₂ hq hup

/-- After a section that is run to its end the leftover is still aside. -/
theorem aside_of_runSection (hw : w.files.WellFormed) (h : w.Aside place n) (hb : b.workdir = none)
    (hspares : ∀ b₁ w₁, b.clean w = (b₁, w₁, .ok ()) → Spares settings place n plan w₁)
    {b' : Builder} {w' : World σ} (hresult : runSection settings b plan w = (b', w', .ok ())) :
    w'.Aside place n ∧ b'.workdir = none := by
  have houtcome := sectionOutcome settings b plan w
  rw [hresult] at houtcome
  cases houtcome with
  | done hprepared hsteps hreclaim hmoved =>
    obtain ⟨-, hup, h₂⟩ := aside_of_prepared hw h hb hspares hprepared
    refine ⟨aside_of_release (h₂.of_sameFiles hmoved.sameFiles) hprepared.workdir hup, ?_⟩
    unfold release bind
    rw [hprepared.workdir]

/-- What running a plan comes to from a world with a leftover, and from that world without it: the
same, up to the leftover, and the directories that are handed out hold the same. -/
theorem runPlan_beside {plans : Plan} (past : List Event) (hw : w.files.WellFormed)
    (h : w.Aside place n) (hb : b.workdir = none)
    (hlocal : ∀ backend, settings.backend = some backend → backend.Local)
    (hspares : ∀ before plan after b₁ w₁ b₂ w₂, plans = before ++ plan :: after →
      b.runPlan settings w before = (b₁, w₁, .ok ()) → b₁.clean w₁ = (b₂, w₂, .ok ()) →
        Spares settings place n plan w₂) :
    b.runPlan settings (w.without place past) plans = ((b.runPlan settings w plans).1,
        (b.runPlan settings w plans).2.1.without place past, (b.runPlan settings w plans).2.2) ∧
      ∃ events, (b.runPlan settings w plans).2.1.events = w.events ++ events ∧
        ∀ dir reference, .build dir reference ∈ events → (dir.without place).Alike dir := by
  -- a section ends with the leftover aside and no working directory, as the next one needs it
  induction plans generalizing b w with
  | nil => exact ⟨rfl, [], (List.append_nil _).symm, nofun⟩
  | cons plan rest ih =>
    have hfirst : ∀ b₁ w₁, b.clean w = (b₁, w₁, .ok ()) → Spares settings place n plan w₁ :=
      fun b₁ w₁ hclean => hspares [] plan rest b w b₁ w₁ rfl rfl hclean
    have hkept := kept_runSection settings b plan hw
    have halike := alike_of_runSection hw h hb hfirst
    unfold runPlan
    rw [runSection_transport (carries_without hw h hb hlocal hfirst)]
    rcases hresult : runSection settings b plan w with ⟨b', w', e | _⟩
    · rw [hresult] at halike
      exact ⟨rfl, halike⟩
    · rw [hresult] at hkept halike
      obtain ⟨h', hb'⟩ := aside_of_runSection hw h hb hfirst hresult
      obtain ⟨hsame, more, hmore, halike'⟩ :=
        ih hkept.wellFormed h' hb' fun before plan' after b₁ w₁ b₂ w₂ hplans hbefore => by
          refine hspares (plan :: before) plan' after b₁ w₁ b₂ w₂ (by rw [hplans]; rfl) ?_
          rw [runPlan, hresult]
          exact hbefore
      obtain ⟨events, hevents, halike⟩ := halike
      refine ⟨hsame, events ++ more, ?_, fun dir reference he => ?_⟩
      · rw [hmore, hevents, List.append_assoc]
      · exact (List.mem_append.1 he).elim (halike dir reference) (halike' dir reference)

end Builder

end ImageBuild
