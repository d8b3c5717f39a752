import ImageBuild.Backend.Daemon
import ImageBuild.Proofs.Builder.Isolation
import ImageBuild.Proofs.Rearchiving

/-!
# What a daemon is sent

A daemon that is asked to build a directory gets the archive of it with its first request and no
archive after that (`requests_build`). In a run this archive is the one of the context again, but for
the dockerfile and for what staging changes (`rearchived_of_runPlan`).
-/

namespace ImageBuild

/-! ## Requests -/

namespace Daemon

variable {daemon : Daemon} {archive : Archive} {reference : String}

theorem requests_exchange (daemon : Daemon) (request : Request) :
    (daemon.exchange request).1.requests = daemon.requests ++ [request] := by
  unfold exchange
  split <;> rfl

theorem requests_inspect (daemon : Daemon) (reference : String) :
    (daemon.inspect reference).1.requests = daemon.requests ++ [inspectRequest reference] := by
  have hexchange := requests_exchange daemon (inspectRequest reference)
  unfold inspect
  dsimp only
  split
  · rename_i heq
    rwa [heq] at hexchange
  · rename_i heq
    rw [heq] at hexchange
    split <;> exact hexchange

/-- The archive is sent with the first request, and nothing is sent with those after it. -/
theorem requests_buildArchive (daemon : Daemon) (archive : Archive) (reference : String) :
    ∃ more, (daemon.buildArchive archive reference).state.requests =
        daemon.requests ++ buildRequest archive reference :: more ∧
      ∀ request ∈ more, request.context = none := by
  have hexchange := requests_exchange daemon (buildRequest archive reference)
  unfold buildArchive concludeBuild
  dsimp only
  split
  · exact ⟨[], hexchange, List.forall_mem_nil _⟩
  · exact ⟨[], hexchange, List.forall_mem_nil _⟩
  · refine ⟨[inspectRequest reference], ?_, ?_⟩
    · rw [requests_inspect, hexchange, List.append_assoc]
      rfl
    · intro request hrequest
      rw [List.mem_singleton.1 hrequest]
      rfl

theorem requests_build {dir : BuildDir}
    (harchive : (dir.files.archive dir.cwd dir.path).2 = .ok archive) :
    ∃ more, (daemon.build dir reference).state.requests =
        daemon.requests ++ buildRequest archive reference :: more ∧
      ∀ request ∈ more, request.context = none := by
  unfold build
  rw [harchive]
  exact requests_buildArchive daemon archive reference

end Daemon

/-! ## Archives of prepared sections -/

variable {σ : Type} {settings : Settings σ} {b b₁ : Builder} {w w₁ w₂ : World σ}
  {plan : SectionPlan} {place : Place}

/-- The archive of the working directory of a prepared section. -/
theorem Prepared.rearchived (h : Prepared settings b plan w b₁ w₁ place w₂)
    (hw : w.files.WellFormed) :
    ∃ c, ∃ context sent : Archive, ∃ content mode time,
      Sandbox.check w₁.files w₁.cwd plan.dockerfile settings.context = .ok c ∧
      (w₁.files.archive [] c.root.text).2 = .ok context ∧
      w₁.files.lookup c.file = some (.file content mode time) ∧
      (w₂.files.archive w₂.cwd place.text).2 = .ok sent ∧
      context.Rearchived (.file content mode time.seconds) sent := by
  obtain ⟨c, hcheck, hinside, hstaged⟩ := h.staged hw
  obtain ⟨hwf, hnew⟩ := Builder.allocated_of_clean hw h.clean h.workdir
  obtain ⟨hne, -⟩ := h.resolve_workdir hw
  obtain ⟨context, content, mode, time, sent, hcontext, hfile, hsent, hrearchived⟩ :=
    hstaged.rearchived hwf hinside.root_resolved hinside.isFile hnew.isDir hne w₂.cwd
  exact ⟨c, context, sent, content, mode, time, hcheck, hcontext, hfile, hsent, hrearchived⟩

/-- What a daemon is sent to build a section of a run: the archive of the context as it was when the
section was set up, with the accepted dockerfile in the place of what is called so in the context. -/
theorem rearchived_of_runPlan (settings : Settings σ) (b : Builder) (w : World σ) (plans : Plan)
    (hw : w.files.WellFormed) {earlier later : List Event} {dir : BuildDir} {reference : String}
    (hrun : (b.runPlan settings w plans).2.1.events = earlier ++ .build dir reference :: later)
    (hnew : w.events <+: earlier) :
    ∃ before plan after b₁ w₁ c, ∃ context sent : Archive, ∃ content mode time,
      plans = before ++ plan :: after ∧ b.runPlan settings w before = (b₁, w₁, .ok ()) ∧
      Sandbox.check (b₁.clean w₁).2.1.files w.cwd plan.dockerfile settings.context = .ok c ∧
      ((b₁.clean w₁).2.1.files.archive [] c.root.text).2 = .ok context ∧
      (b₁.clean w₁).2.1.files.lookup c.file = some (.file content mode time) ∧
      (dir.files.archive dir.cwd dir.path).2 = .ok sent ∧
      context.Rearchived (.file content mode time.seconds) sent ∧
      ∀ daemon : Daemon, ∃ more, (daemon.build dir reference).state.requests =
          daemon.requests ++ Daemon.buildRequest sent reference :: more ∧
        ∀ request ∈ more, request.context = none := by
  obtain ⟨before, plan, after, b₁, w₁, hplans, hbefore, hw₁, hevent⟩ :=
    Builder.exists_section_of_event hw hrun hnew
  have hkept := Builder.kept_runPlan settings b before hw
  rw [hbefore] at hkept
  obtain ⟨events, hevents⟩ := (Builder.kept_runSection settings b₁ plan hkept.wellFormed).events
  have hmem : Event.build dir reference ∈ events := by
    obtain ⟨more, rfl⟩ := hw₁
    rw [← hevents, List.append_assoc, List.prefix_append_right_inj] at hevent
    exact hevent.subset (by simp)
  obtain ⟨b₂, w₂, place, w₃, hprepared, rfl⟩ :=
    Builder.prepared_of_build_mem hevents.symm hmem
  obtain ⟨c, context, sent, content, mode, time, hcheck, hcontext, hfile, hsent, hrearchived⟩ :=
    hprepared.rearchived hkept.wellFormed
  have hclean : (b₁.clean w₁).2.1 = w₂ := by rw [hprepared.clean]
  have hcwd : w₂.cwd = w.cwd := (Builder.quiet_of_clean hprepared.clean).cwd.trans hkept.cwd
  rw [hcwd] at hcheck
  rw [← hclean] at hcheck hcontext hfile
  exact ⟨before, plan, after, b₁, w₁, c, context, sent, content, mode, time, hplans, hbefore,
    hcheck, hcontext, hfile, hsent, hrearchived, fun _ => Daemon.requests_build hsent⟩

theorem World.linked_events : ∃ dir reference later,
    (Builder.new.runPlan .obliging .linked [.building "Dockerfile"]).2.1.events =
      [] ++ .build dir reference :: later := by
  have hfirst :
      ((Builder.new.runPlan .obliging .linked [.building "Dockerfile"]).2.1.events.head?.any
        fun event => (builtTrees [event]).length = 1) = true := by decide +kernel
  cases hrun : (Builder.new.runPlan .obliging .linked [.building "Dockerfile"]).2.1.events with
  | nil =>
    rw [hrun] at hfirst
    cases hfirst
  | cons event later =>
    rw [hrun] at hfirst
    cases event with
    | build dir reference => exact ⟨dir, reference, later, rfl⟩
    | _ => cases hfirst

theorem rearchived_linked : ∃ dir reference later, ∃ context sent : Archive, ∃ content mode time,
    (Builder.new.runPlan .obliging .linked [.building "Dockerfile"]).2.1.events =
        [] ++ .build dir reference :: later ∧
      (dir.files.archive dir.cwd dir.path).2 = .ok sent ∧
      context.Rearchived (.file content mode time) sent := by
  obtain ⟨dir, reference, later, hrun⟩ := World.linked_events
  have hw : World.linked.files.WellFormed := by decide +kernel
  obtain ⟨-, plan, -, b₁, w₁, c, context, sent, content, mode, time, -, -, -, -, -, hsent,
      hrearchived, -⟩ :=
    rearchived_of_runPlan .obliging .new .linked [.building "Dockerfile"] hw hrun List.prefix_rfl
  exact ⟨dir, reference, later, context, sent, content, mode, time.seconds, hrun, hsent,
    hrearchived⟩

/-- The archives of the directories that build requests hand out, in order. -/
def builtArchives (events : List Event) : List Archive :=
  events.filterMap fun
    | .build dir _ => (dir.files.archive dir.cwd dir.path).2.toOption
    | _ => none

/-- A world with a context that has a dockerfile and a link to the root, with a step nowhere. -/
def World.slashed : World Unit :=
  { World.linked with
    files := ⟨[(["tmp"], .dir 0o755), (["ctx"], .dir 0o755),
      (["ctx", "Dockerfile"], .file [70] 0o644 ⟨1, 5⟩), (["ctx", "link"], .link "/.")]⟩ }

/-- A link to the root is not sent as the archive of the context has it: its target gets another
slash when it is archived again. -/
theorem root_target_not_kept :
    (∃ context ∈ (World.slashed.files.archive [] "/ctx").2.toOption,
        ⟨["link"], .link "/"⟩ ∈ context) ∧
      ∃ sent ∈ builtArchives (Builder.new.runPlan .obliging .slashed
          [.building "Dockerfile"]).2.1.events,
        ⟨["link"], .link "//"⟩ ∈ sent ∧ ⟨["link"], .link "/"⟩ ∉ sent := by
  decide +kernel

end ImageBuild
