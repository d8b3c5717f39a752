import Mathlib.Data.List.Forall2
import ImageBuild.Proofs.Plan.Identifiers

/-!
# What a plan keeps of a configuration

A well-formed configuration becomes one part for each section, in order, and each part is made of
the name, the dockerfile, the repository and the tags of its section and of nothing else
(`Section.KeptIn`, `Section.KeptIn.eq_of_agrees`). Under one fixed identifier two plans are the same
exactly if their sections agree on all of these (`Compiler.compilation`); whether pushes are skipped
can not be seen of a section without tags.
-/

namespace ImageBuild

/-! ## Steps by their kinds -/

namespace ImageStep

/-- Builds come before tags, and tags before pushes. -/
def rank : ImageStep → Nat
  | .build _ => 0
  | .tag .. => 1
  | .push .. => 2

/-- The reference that a step builds. -/
def built? : ImageStep → Option String
  | .build reference => some reference
  | .tag .. | .push .. => none

/-- The repository and the tag that a step gives an image. -/
def tagged? : ImageStep → Option (String × TagSpec)
  | .tag repository spec => some (repository, spec)
  | .build _ | .push .. => none

/-- The repository and the tag that a step pushes. -/
def pushed? : ImageStep → Option (String × TagSpec)
  | .push repository spec => some (repository, spec)
  | .build _ | .tag .. => none

theorem filterMap_built?_eq_nil {steps : List ImageStep} (h : ∀ step ∈ steps, 1 ≤ step.rank) :
    steps.filterMap built? = [] := by
  refine List.filterMap_eq_nil_iff.2 fun step hmem => ?_
  have hrank := h step hmem
  cases step with
  | build reference => simp [rank] at hrank
  | _ => rfl

theorem filterMap_tagged?_eq_nil {steps : List ImageStep} (h : ∀ step ∈ steps, 2 ≤ step.rank) :
    steps.filterMap tagged? = [] := by
  refine List.filterMap_eq_nil_iff.2 fun step hmem => ?_
  have hrank := h step hmem
  cases step with
  | tag repository spec => simp [rank] at hrank
  | _ => rfl

/-- Steps in the order of their kinds are told by what is built, tagged and pushed. -/
theorem eq_of_ordered {steps : List ImageStep}
    (h : steps.Pairwise fun step later => step.rank ≤ later.rank) :
    steps = (steps.filterMap built?).map .build ++
      ((steps.filterMap tagged?).map (fun entry => .tag entry.1 entry.2) ++
        (steps.filterMap pushed?).map fun entry => .push entry.1 entry.2) := by
  induction steps with
  | nil => rfl
  | cons step steps ih =>
    obtain ⟨hstep, hsteps⟩ := List.pairwise_cons.1 h
    have hrest := ih hsteps
    -- nothing of a lower kind follows
    cases step with
    | build reference =>
      simpa only [List.filterMap_cons, built?, tagged?, pushed?, List.map_cons, List.cons_append,
        List.cons.injEq, true_and] using hrest
    | tag repository spec =>
      have hbuilds := filterMap_built?_eq_nil hstep
      rw [hbuilds, List.map_nil, List.nil_append] at hrest
      simpa only [List.filterMap_cons, built?, tagged?, pushed?, hbuilds, List.map_nil,
        List.nil_append, List.map_cons, List.cons_append, List.cons.injEq, true_and] using hrest
    | push repository spec =>
      have htags := filterMap_tagged?_eq_nil hstep
      have hbuilds : steps.filterMap built? = [] :=
        filterMap_built?_eq_nil fun step hmem => Nat.le_of_succ_le (hstep step hmem)
      rw [hbuilds, htags, List.map_nil, List.map_nil, List.nil_append, List.nil_append] at hrest
      simpa only [List.filterMap_cons, built?, tagged?, pushed?, hbuilds, htags, List.map_nil,
        List.nil_append, List.map_cons, List.cons.injEq, true_and] using hrest

end ImageStep

/-! ## Sections and parts -/

namespace Section

/-- A part of a plan is made of a section, under its own identifier. -/
structure KeptIn (skip : Bool) (s : Section) (part : SectionPlan) : Prop where
  name : part.name = s.name
  dockerfile : part.dockerfile = s.dockerfile
  /-- Builds come first, pushes last. -/
  ordered : part.steps.Pairwise fun step later => step.rank ≤ later.rank
  /-- There is one build. -/
  built : part.steps.filterMap ImageStep.built? = [s.repository ++ ":" ++ part.uuid]
  /-- There is one tag for each tag spec, in their order. -/
  tagged : part.steps.filterMap ImageStep.tagged? = s.tags.map (s.repository, ·)
  /-- There is one push for each tag spec, in their order, or none. -/
  pushed : part.steps.filterMap ImageStep.pushed? =
    if s.skipPush || skip then [] else s.tags.map (s.repository, ·)

/-- Two sections can not be told apart by their parts of a plan. -/
structure Agrees (skip skip' : Bool) (s s' : Section) : Prop where
  name : s.name = s'.name
  dockerfile : s.dockerfile = s'.dockerfile
  repository : s.repository = s'.repository
  tags : s.tags = s'.tags
  skipped : s.tags ≠ [] → (s.skipPush || skip) = (s'.skipPush || skip')

variable {skip skip' : Bool} {s s' : Section} {part part' : SectionPlan}

theorem keptIn_planSection (skip : Bool) (uuid : String) (s : Section) :
    s.KeptIn skip (Compiler.planSection skip uuid s) := by
  refine ⟨rfl, rfl, ?_, Compiler.references_planSection skip uuid s, ?_, ?_⟩
  all_goals unfold Compiler.planSection Compiler.steps
  · rw [List.pairwise_cons, List.pairwise_append]
    refine ⟨fun _ _ => Nat.zero_le _, ?_, ?_, ?_⟩
    · exact List.pairwise_map.2 (List.pairwise_of_forall fun _ _ => Nat.le_refl _)
    · split
      · exact List.Pairwise.nil
      · exact List.pairwise_map.2 (List.pairwise_of_forall fun _ _ => Nat.le_refl _)
    · intro step hstep later hlater
      obtain ⟨tag, -, rfl⟩ := List.mem_map.1 hstep
      split at hlater
      · cases hlater
      · obtain ⟨other, -, rfl⟩ := List.mem_map.1 hlater
        exact Nat.le_succ 1
  · split <;> simp [ImageStep.tagged?, List.filterMap_cons, List.filterMap_map, Function.comp_def]
  · split <;> simp [ImageStep.pushed?, List.filterMap_cons, List.filterMap_map, Function.comp_def]

/-- Sections that agree make the same part under the same identifier. -/
theorem KeptIn.eq_of_agrees (h : s.KeptIn skip part) (h' : s'.KeptIn skip' part')
    (huuid : part.uuid = part'.uuid) (hagrees : Agrees skip skip' s s') : part = part' := by
  have hbuilt : part.steps.filterMap ImageStep.built? = part'.steps.filterMap ImageStep.built? := by
    rw [h.built, h'.built, hagrees.repository, huuid]
  have htagged :
      part.steps.filterMap ImageStep.tagged? = part'.steps.filterMap ImageStep.tagged? := by
    rw [h.tagged, h'.tagged, hagrees.repository, hagrees.tags]
  have hpushed :
      part.steps.filterMap ImageStep.pushed? = part'.steps.filterMap ImageStep.pushed? := by
    rw [h.pushed, h'.pushed, ← hagrees.repository, ← hagrees.tags]
    rcases eq_or_ne s.tags [] with htags | htags
    · rw [htags, List.map_nil, ite_self, ite_self]
    · rw [hagrees.skipped htags]
  have hsteps : part.steps = part'.steps := by
    rw [ImageStep.eq_of_ordered h.ordered, ImageStep.eq_of_ordered h'.ordered, hbuilt, htagged,
      hpushed]
  have hname : part.name = part'.name := by rw [h.name, h'.name, hagrees.name]
  have hdockerfile : part.dockerfile = part'.dockerfile := by
    rw [h.dockerfile, h'.dockerfile, hagrees.dockerfile]
  cases part
  cases part'
  simp_all

/-- Of a part everything can be read off on which sections agree. -/
theorem KeptIn.agrees (h : s.KeptIn skip part) (h' : s'.KeptIn skip' part) :
    Agrees skip skip' s s' := by
  have hrepository : s.repository = s'.repository := by
    have hbuilt := h.built.symm.trans h'.built
    simpa using hbuilt
  have htags : s.tags = s'.tags := by
    have htagged := h.tagged.symm.trans h'.tagged
    rw [hrepository] at htagged
    exact List.map_injective_iff.2 (Prod.mk_right_injective s'.repository) htagged
  refine ⟨h.name.symm.trans h'.name, h.dockerfile.symm.trans h'.dockerfile, hrepository, htags,
    fun hne => ?_⟩
  -- with a tag there are pushes exactly if they are not skipped
  have hpushed := h.pushed.symm.trans h'.pushed
  rw [← htags] at hpushed
  cases hskip : (s.skipPush || skip) <;> cases hskip' : (s'.skipPush || skip') <;>
    simp_all

end Section

/-! ## Compiling -/

namespace Compiler

variable {draw : Nat → String} {c : Compiler} {used : Nat} {config : Config}

theorem keptIn_planSections (draw : Nat → String) (c : Compiler) (used : Nat)
    (sections : List Section) :
    List.Forall₂ (Section.KeptIn c.skipPush) sections (c.planSections draw used sections).1 := by
  induction sections generalizing used with
  | nil => exact .nil
  | cons s rest ih => exact .cons (Section.keptIn_planSection _ _ s) (ih _)

/-- What compiling a configuration comes to. -/
structure Compilation (draw : Nat → String) (c : Compiler) (used : Nat) (config : Config) :
    Prop where
  /-- It is refused with the fault of the configuration, and only then. -/
  refused_iff : ∀ fault,
    (c.compile draw used config).1 = .error fault ↔ config.validate = .error fault
  /-- It is planned if the configuration is accepted, and only then. -/
  planned_iff : (∃ plan, (c.compile draw used config).1 = .ok plan) ↔ config.validate = .ok ()
  /-- There is one part for each section, in their order. -/
  kept : ∀ plan, (c.compile draw used config).1 = .ok plan →
    List.Forall₂ (Section.KeptIn c.skipPush) config.sections plan
  /-- Under one fixed identifier the plans of two configurations are the same exactly if their
  sections agree, whatever both compilers say of pushes. -/
  same_iff : ∀ (uuid : String) (c' : Compiler) (draw' : Nat → String) (used' : Nat)
    (config' : Config) (plan plan' : Plan), c.uuids = .fixed uuid → c'.uuids = .fixed uuid →
    (c.compile draw used config).1 = .ok plan → (c'.compile draw' used' config').1 = .ok plan' →
    (plan = plan' ↔
      List.Forall₂ (Section.Agrees c.skipPush c'.skipPush) config.sections config'.sections)

theorem compile_of_error {fault : ConfigFault} (h : config.validate = .error fault) :
    (c.compile draw used config).1 = .error fault := by
  rw [compile, h]

theorem compile_of_ok (h : config.validate = .ok ()) :
    (c.compile draw used config).1 = .ok (c.planSections draw used config.sections).1 := by
  rw [compile, h]

theorem eq_of_compile {plan : Plan} (h : (c.compile draw used config).1 = .ok plan) :
    plan = (c.planSections draw used config.sections).1 :=
  congrArg Prod.fst (eq_planSections_of_compile (Prod.ext h rfl)).2.symm

/-- Under one identifier, plans are the same exactly if what they are made of agrees. -/
theorem eq_iff_of_keptIn {uuid : String} {skip skip' : Bool} {sections sections' : List Section}
    {plan plan' : Plan} (h : List.Forall₂ (Section.KeptIn skip) sections plan)
    (h' : List.Forall₂ (Section.KeptIn skip') sections' plan')
    (huuid : ∀ part ∈ plan, part.uuid = uuid) (huuid' : ∀ part ∈ plan', part.uuid = uuid) :
    plan = plan' ↔ List.Forall₂ (Section.Agrees skip skip') sections sections' := by
  induction h generalizing sections' plan' with
  | nil =>
    cases h' with
    | nil => simp
    | cons hpart' hplan' => simp
  | cons hpart hplan ih =>
    cases h' with
    | nil => simp
    | cons hpart' hplan' =>
      obtain ⟨hfirst, hrest⟩ := List.forall_mem_cons.1 huuid
      obtain ⟨hfirst', hrest'⟩ := List.forall_mem_cons.1 huuid'
      rw [List.cons.injEq, List.forall₂_cons, ih hplan' hrest hrest']
      refine and_congr_left fun _ => ⟨?_, fun h => ?_⟩
      · rintro rfl
        exact hpart.agrees hpart'
      · exact hpart.eq_of_agrees hpart' (hfirst.trans hfirst'.symm) h

/-- Every configuration, with every compiler and any draws. -/
theorem compilation (draw : Nat → String) (c : Compiler) (used : Nat) (config : Config) :
    Compilation draw c used config := by
  refine ⟨fun fault => ⟨fun h => ?_, compile_of_error⟩, ⟨fun ⟨plan, h⟩ => ?_, fun h => ?_⟩,
    fun plan h => ?_, fun uuid c' draw' used' config' plan plan' hfixed hfixed' h h' => ?_⟩
  · cases hvalid : config.validate with
    | error other =>
      rw [compile_of_error hvalid] at h
      rw [Except.error.inj h]
    | ok => rw [compile_of_ok hvalid] at h; cases h
  · cases hvalid : config.validate with
    | error fault => rw [compile_of_error hvalid] at h; cases h
    | ok => rfl
  · exact ⟨_, compile_of_ok h⟩
  · rw [eq_of_compile h]
    exact keptIn_planSections _ _ _ _
  · rw [eq_of_compile h, eq_of_compile h']
    exact eq_iff_of_keptIn (keptIn_planSections _ _ _ _) (keptIn_planSections _ _ _ _)
      (fun _ => uuid_of_mem_planSections hfixed) (fun _ => uuid_of_mem_planSections hfixed')

-- Without tags there is nothing to push, so that a plan does not tell whether pushes are skipped.
example : (Compiler.mk (.fixed "u") true).compile uuidOfBits 0
      (.ofSections [⟨"base", "Dockerfile", "", "app", [], false⟩]) =
    (Compiler.mk (.fixed "u") false).compile uuidOfBits 0
      (.ofSections [⟨"base", "Dockerfile", "", "app", [], false⟩]) := by
  decide +kernel

end Compiler

end ImageBuild
