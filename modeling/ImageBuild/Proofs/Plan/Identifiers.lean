import Mathlib.Data.List.Nodup
import Mathlib.Data.List.Infix
import Mathlib.Data.Nat.Digits.Defs
import ImageBuild.Proofs.Backend.Memory
import ImageBuild.Proofs.Builder.Results

/-!
# Identifiers over the life of a compiler

Whatever a compiler is asked for, in any order, it hands out different identifiers as long as it
draws them, and the value that is fixed while one is fixed. The pattern that finds the intermediate
image of one part of a plan finds no other (`identifiers_of_run`).
-/

namespace ImageBuild

/-! ## The form of an identifier -/

/-- The identifiers that can be drawn are those of 122 random bits. -/
def IsDrawable (uuid : String) : Prop := ∃ n < 2 ^ 122, uuid = uuidOfBits n

theorem length_paddedHex {width n : Nat} (hwidth : 0 < width) (h : n < 16 ^ width) :
    (paddedHex width n).length = width := by
  have hdigits : (Text.hexDigits n).length ≤ width := Nat.toDigits_length 16 n width hwidth h
  simp only [paddedHex, String.length_ofList, List.length_append, List.length_replicate]
  omega

theorem length_hexGroup {width behind n : Nat} (hwidth : 0 < width) :
    (hexGroup width behind n).length = width := by
  refine length_paddedHex hwidth ?_
  rw [Nat.shiftLeft_eq, one_mul, Nat.pow_mul]
  exact Nat.mod_lt _ (by positivity)

theorem length_uuidOfBits (n : Nat) : (uuidOfBits n).length = 36 := by
  have hvariant : (paddedHex 1 (8 + n % 4)).length = 1 := length_paddedHex one_pos (by omega)
  simp only [uuidOfBits, String.intercalate_cons_cons, String.intercalate_singleton,
    String.length_append, length_hexGroup (Nat.succ_pos _), hvariant]
  rfl

/-- The pattern of a drawn identifier tells it from every other drawn identifier. -/
theorem Pattern.isMatch_reference_iff_of_isDrawable {uuid repository tag : String}
    (huuid : IsDrawable uuid) (htag : IsDrawable tag) :
    (ofSuffix uuid).isMatch (repository ++ ":" ++ tag) = true ↔ uuid = tag := by
  obtain ⟨m, -, rfl⟩ := huuid
  obtain ⟨n, -, rfl⟩ := htag
  rw [isMatch_ofSuffix]
  have htagged : (uuidOfBits n).toList <:+ (repository ++ ":" ++ uuidOfBits n).toList :=
    ⟨repository.toList ++ [':'], by simp⟩
  constructor
  · intro h
    have hsuffix := (List.suffix_cons ':' _).trans h
    have hlength : (uuidOfBits m).toList.length = (uuidOfBits n).toList.length := by
      simp only [String.length_toList, length_uuidOfBits]
    exact String.toList_inj.1
      ((List.suffix_of_suffix_length_le hsuffix htagged hlength.le).eq_of_length hlength)
  · intro h
    rw [h]
    exact ⟨repository.toList, by simp⟩

/-! ## What a compiler is asked for -/

namespace Compiler

/-- What a compiler can be asked for. -/
inductive Request
  | seed
  | randomize
  | setSource (source : UuidSource)
  | setSkipPush (skip : Bool)
  | next
  | compile (config : Config)
  deriving DecidableEq

/-- What a compiler gives back. -/
inductive Handout
  | identifier (uuid : String)
  | plan (parts : Plan)
  deriving DecidableEq

/-- The parts of plans in a handout. -/
def Handout.parts : Handout → List SectionPlan
  | .identifier _ => []
  | .plan parts => parts

/-- The identifiers in a handout. -/
def Handout.uuids : Handout → List String
  | .identifier uuid => [uuid]
  | .plan parts => parts.map (·.uuid)

/-- A compiler at some time of its life. -/
structure Life where
  compiler : Compiler
  /-- How many draws are used up. -/
  used : Nat
  /-- What was handed out so far, and under which source. -/
  handouts : List (UuidSource × Handout)
  deriving DecidableEq

namespace Life

/-- The life of a compiler that has handed out nothing. -/
def start (c : Compiler) (used : Nat) : Life := ⟨c, used, []⟩

def handOut (life : Life) (handout : Handout) (used : Nat) : Life :=
  ⟨life.compiler, used, life.handouts ++ [(life.compiler.uuids, handout)]⟩

/-- What a request does. -/
def answer (draw : Nat → String) (life : Life) : Request → Life
  | .seed => { life with compiler := { life.compiler with uuids := .seeded } }
  | .randomize => { life with compiler := { life.compiler with uuids := .random } }
  | .setSource source => { life with compiler := { life.compiler with uuids := source } }
  | .setSkipPush skip => { life with compiler := { life.compiler with skipPush := skip } }
  | .next =>
    let (uuid, used) := life.compiler.uuids.next draw life.used
    life.handOut (.identifier uuid) used
  | .compile config =>
    match life.compiler.compile draw life.used config with
    | (.error _, used) => { life with used := used }
    | (.ok parts, used) => life.handOut (.plan parts) used

/-- What some requests do, one after the other. -/
def run (draw : Nat → String) (life : Life) (requests : List Request) : Life :=
  requests.foldl (answer draw) life

/-- What was handed out while identifiers were drawn. -/
def atRandom (life : Life) : List Handout :=
  (life.handouts.filter (·.1 = .random)).map Prod.snd

/-- The parts of the plans that were made while identifiers were drawn. -/
def parts (life : Life) : List SectionPlan :=
  life.atRandom.flatMap Handout.parts

/-- The identifiers that were handed out while they were drawn. -/
def uuids (life : Life) : List String :=
  life.atRandom.flatMap Handout.uuids

end Life

end Compiler

/-- The references that a part of a plan builds. -/
def SectionPlan.references (part : SectionPlan) : List String :=
  part.steps.filterMap fun step =>
    match step with
    | .build reference => some reference
    | .tag .. | .push .. => none

namespace Compiler

variable {draw : Nat → String}

@[simp]
theorem references_planSection (skipPush : Bool) (uuid : String) (s : Section) :
    (planSection skipPush uuid s).references = [s.repository ++ ":" ++ uuid] := by
  unfold planSection steps SectionPlan.references
  split <;> simp [List.filterMap_map]

theorem planSections_random (draw : Nat → String) (c : Compiler) (hc : c.uuids = .random)
    (used : Nat) (sections : List Section) :
    (c.planSections draw used sections).1.map (·.uuid) =
        (List.range' used sections.length).map draw ∧
      (c.planSections draw used sections).2 = used + sections.length := by
  induction sections generalizing used with
  | nil => exact ⟨rfl, rfl⟩
  | cons s rest ih =>
    obtain ⟨huuids, hused⟩ := ih (used + 1)
    simp only [planSections, hc, UuidSource.next, List.map_cons, huuids, hused, List.length_cons,
      List.range'_succ]
    exact ⟨rfl, by omega⟩

theorem planSections_fixed (draw : Nat → String) (c : Compiler) {uuid : String}
    (hc : c.uuids = .fixed uuid) (used : Nat) (sections : List Section) :
    (c.planSections draw used sections).1.map (·.uuid) = List.replicate sections.length uuid ∧
      (c.planSections draw used sections).2 = used := by
  induction sections generalizing used with
  | nil => exact ⟨rfl, rfl⟩
  | cons s rest ih =>
    obtain ⟨huuids, hused⟩ := ih used
    simp only [planSections, hc, UuidSource.next, List.map_cons, huuids, hused, List.length_cons,
      List.replicate_succ, planSection, and_self]

theorem uuid_of_mem_planSections {c : Compiler} {uuid : String} (h : c.uuids = .fixed uuid)
    {used : Nat} {sections : List Section} {part : SectionPlan}
    (hpart : part ∈ (c.planSections draw used sections).1) : part.uuid = uuid := by
  have hmem := List.mem_map_of_mem (f := SectionPlan.uuid) hpart
  rw [(planSections_fixed draw c h used sections).1] at hmem
  exact List.eq_of_mem_replicate hmem

theorem references_of_mem_planSections {c : Compiler} {used : Nat} {sections : List Section}
    {part : SectionPlan} (h : part ∈ (c.planSections draw used sections).1) :
    ∃ repository, part.references = [repository ++ ":" ++ part.uuid] := by
  obtain ⟨s, -, uuid, rfl⟩ := exists_of_mem_planSections h
  exact ⟨s.repository, references_planSection _ _ _⟩

namespace Life

/-! ## One request -/

theorem answer_compile_of_error {life : Life} {config : Config} {fault : ConfigFault}
    (h : config.validate = .error fault) : life.answer draw (.compile config) = life := by
  simp [answer, Compiler.compile, h]

theorem answer_compile_of_ok {life : Life} {config : Config} (h : config.validate = .ok ()) :
    life.answer draw (.compile config) =
      life.handOut (.plan (life.compiler.planSections draw life.used config.sections).1)
        (life.compiler.planSections draw life.used config.sections).2 := by
  simp [answer, Compiler.compile, h]

/-- A request hands out at most one thing, and nothing is taken back. -/
theorem handouts_answer (life : Life) (request : Request) :
    life.handouts <+: (life.answer draw request).handouts := by
  cases request with
  | seed | randomize | setSource | setSkipPush => exact List.prefix_rfl
  | next => exact List.prefix_append _ _
  | compile config =>
    cases h : config.validate with
    | error => rw [answer_compile_of_error h]
    | ok =>
      rw [answer_compile_of_ok h]
      exact List.prefix_append _ _

theorem handouts_run (life : Life) (requests : List Request) :
    life.handouts <+: (life.run draw requests).handouts := by
  induction requests generalizing life with
  | nil => exact List.prefix_rfl
  | cons request rest ih => exact (handouts_answer life request).trans (ih _)

theorem run_append (life : Life) (before after : List Request) :
    life.run draw (before ++ after) = (life.run draw before).run draw after :=
  List.foldl_append

theorem uuids_handOut_of_random {life : Life} (h : life.compiler.uuids = .random)
    (handout : Handout) (used : Nat) :
    (life.handOut handout used).uuids = life.uuids ++ handout.uuids := by
  simp [uuids, atRandom, handOut, h]

theorem parts_handOut_of_random {life : Life} (h : life.compiler.uuids = .random)
    (handout : Handout) (used : Nat) :
    (life.handOut handout used).parts = life.parts ++ handout.parts := by
  simp [parts, atRandom, handOut, h]

theorem atRandom_handOut_of_fixed {life : Life} {uuid : String}
    (h : life.compiler.uuids = .fixed uuid) (handout : Handout) (used : Nat) :
    (life.handOut handout used).atRandom = life.atRandom := by
  simp [atRandom, handOut, h]

/-! ## The draws that are used up -/

/-- What was handed out since a number of draws was used up: the draws after it, in order, and parts
of plans that build under their identifier. -/
structure Draws (draw : Nat → String) (used : Nat) (life : Life) : Prop where
  used_le : used ≤ life.used
  uuids_eq : life.uuids = (List.range' used (life.used - used)).map draw
  references_eq : ∀ part ∈ life.parts, ∃ repository,
    part.references = [repository ++ ":" ++ part.uuid]

theorem Draws.start (draw : Nat → String) (c : Compiler) (used : Nat) :
    Draws draw used (start c used) :=
  ⟨Nat.le_refl _, by simp [Life.start, uuids, atRandom],
    by simp [Life.start, parts, atRandom]⟩

/-- Handing out the next draws. -/
theorem Draws.handOut_of_random {used n : Nat} {life : Life} {handout : Handout}
    (h : Draws draw used life) (hrandom : life.compiler.uuids = .random)
    (huuids : handout.uuids = (List.range' life.used n).map draw)
    (hparts : ∀ part ∈ handout.parts, ∃ repository,
      part.references = [repository ++ ":" ++ part.uuid]) :
    Draws draw used (life.handOut handout (life.used + n)) := by
  obtain ⟨hused, hdrawn, hreferences⟩ := h
  refine ⟨Nat.le_add_right_of_le hused, ?_, ?_⟩
  · have hsplit : life.used + n - used = life.used - used + n := by omega
    have hfrom : used + (life.used - used) = life.used := by omega
    rw [uuids_handOut_of_random hrandom, hdrawn, huuids, ← List.map_append]
    change _ = (List.range' used (life.used + n - used)).map draw
    rw [hsplit, ← List.range'_append_1, hfrom]
  · intro part hpart
    rw [parts_handOut_of_random hrandom] at hpart
    rcases List.mem_append.1 hpart with hpart | hpart
    · exact hreferences part hpart
    · exact hparts part hpart

/-- Handing out a fixed identifier. -/
theorem Draws.handOut_of_fixed {used : Nat} {life : Life} {uuid : String} {handout : Handout}
    (h : Draws draw used life) (hfixed : life.compiler.uuids = .fixed uuid) :
    Draws draw used (life.handOut handout life.used) := by
  have hrandom := atRandom_handOut_of_fixed hfixed handout life.used
  refine ⟨h.used_le, ?_, ?_⟩
  · rw [uuids, hrandom]
    exact h.uuids_eq
  · rw [parts, hrandom]
    exact h.references_eq

theorem Draws.answer {used : Nat} {life : Life} (h : Draws draw used life) (request : Request) :
    Draws draw used (life.answer draw request) := by
  cases request with
  | seed | randomize | setSource | setSkipPush => exact ⟨h.used_le, h.uuids_eq, h.references_eq⟩
  | next =>
    cases hsource : life.compiler.uuids with
    | random =>
      have hdrawn : Draws draw used
          (life.handOut (.identifier (draw life.used)) (life.used + 1)) :=
        h.handOut_of_random hsource rfl nofun
      simpa [Life.answer, hsource, UuidSource.next] using hdrawn
    | fixed uuid =>
      have hsame : Draws draw used (life.handOut (.identifier uuid) life.used) :=
        h.handOut_of_fixed hsource
      simpa [Life.answer, hsource, UuidSource.next] using hsame
  | compile config =>
    cases hvalid : config.validate with
    | error => rwa [answer_compile_of_error hvalid]
    | ok =>
      rw [answer_compile_of_ok hvalid]
      cases hsource : life.compiler.uuids with
      | random =>
        obtain ⟨huuids, hused⟩ :=
          planSections_random draw life.compiler hsource life.used config.sections
        rw [hused]
        exact h.handOut_of_random hsource huuids fun _ => references_of_mem_planSections
      | fixed uuid =>
        rw [(planSections_fixed draw life.compiler hsource life.used config.sections).2]
        exact h.handOut_of_fixed hsource

theorem Draws.run {used : Nat} {life : Life} (h : Draws draw used life)
    (requests : List Request) : Draws draw used (life.run draw requests) := by
  induction requests generalizing life with
  | nil => exact h
  | cons request rest ih => exact ih (h.answer request)

/-- Every part of a plan has one of the identifiers that were handed out. -/
theorem uuids_parts_sublist (life : Life) : (life.parts.map (·.uuid)).Sublist life.uuids := by
  unfold parts uuids
  rw [List.map_flatMap]
  induction life.atRandom with
  | nil => exact List.Sublist.slnil
  | cons handout rest ih =>
    rw [List.flatMap_cons, List.flatMap_cons]
    refine List.Sublist.append ?_ ih
    cases handout with
    | identifier => exact List.nil_sublist _
    | plan => exact List.Sublist.refl _

theorem uuid_mem_of_mem_parts {life : Life} {part : SectionPlan} (h : part ∈ life.parts) :
    part.uuid ∈ life.uuids :=
  (uuids_parts_sublist life).subset (List.mem_map_of_mem h)

theorem eq_of_uuid_eq {life : Life} {i j : Nat} {part other : SectionPlan}
    (hnodup : (life.parts.map (·.uuid)).Nodup) (hpart : life.parts[i]? = some part)
    (hother : life.parts[j]? = some other) (h : part.uuid = other.uuid) : i = j := by
  have hbound : i < (life.parts.map (·.uuid)).length := by
    rw [List.length_map]
    exact (List.getElem?_eq_some_iff.1 hpart).1
  refine (List.getElem?_inj hbound hnodup).1 ?_
  rw [List.getElem?_map, List.getElem?_map, hpart, hother, Option.map_some, Option.map_some, h]

/-! ## Compiling -/

/-- Compiling a configuration at some time: nothing happens if it is not well-formed; otherwise one
plan is handed out, with one part for each section, and if an identifier is fixed, every part builds
under it and nothing is drawn. -/
structure Compiles (draw : Nat → String) (life : Life) (config : Config) : Prop where
  of_error : ∀ fault, config.validate = .error fault → life.answer draw (.compile config) = life
  of_ok : config.validate = .ok () → ∃ plan used,
    life.answer draw (.compile config) = life.handOut (.plan plan) used ∧
      plan.length = config.sections.length ∧
      ∀ uuid, life.compiler.uuids = .fixed uuid → used = life.used ∧
        ∀ part ∈ plan, part.uuid = uuid ∧
          ∃ repository, part.references = [repository ++ ":" ++ uuid]

theorem length_planSections (c : Compiler) (used : Nat) (sections : List Section) :
    (c.planSections draw used sections).1.length = sections.length := by
  induction sections generalizing used with
  | nil => rfl
  | cons s rest ih => simp only [planSections, List.length_cons, ih]

theorem compiles (life : Life) (config : Config) : Compiles draw life config := by
  refine ⟨fun fault h => answer_compile_of_error h, fun h => ?_⟩
  refine ⟨_, _, answer_compile_of_ok h, length_planSections _ _ _, fun uuid hfixed => ?_⟩
  refine ⟨(planSections_fixed draw life.compiler hfixed life.used config.sections).2,
    fun part hpart => ?_⟩
  have huuid := uuid_of_mem_planSections hfixed hpart
  obtain ⟨repository, hreferences⟩ := references_of_mem_planSections hpart
  exact ⟨huuid, repository, huuid ▸ hreferences⟩

/-! ## A whole life -/

/-- Over any requests, where no draw repeats and every one has the form of an identifier: the
identifiers handed out while they are drawn are all different; among the parts of plans made under
drawn identifiers, the pattern of one matches the reference that another builds only if they are the
same part; and what was handed out at some moment stays as it is, and configurations are compiled as
`Compiles` says. -/
theorem identifiers_of_run (draw : Nat → String) (c : Compiler) (used : Nat)
    (requests : List Request)
    (hdistinct : ∀ j < ((start c used).run draw requests).used, ∀ i < j, used ≤ i →
      draw i ≠ draw j)
    (hdrawable : ∀ i < ((start c used).run draw requests).used, used ≤ i → IsDrawable (draw i)) :
    ((start c used).run draw requests).uuids.Nodup ∧
      (∀ (i j : Nat) (part other : SectionPlan),
        ((start c used).run draw requests).parts[i]? = some part →
        ((start c used).run draw requests).parts[j]? = some other →
          ∃ reference, other.references = [reference] ∧
            ((Pattern.ofSuffix part.uuid).isMatch reference = true ↔ i = j)) ∧
      ∀ before after, requests = before ++ after →
        ((start c used).run draw before).handouts <+:
            ((start c used).run draw requests).handouts ∧
          ∀ config rest, after = .compile config :: rest →
            Compiles draw ((start c used).run draw before) config := by
  have hdraws := (Draws.start draw c used).run requests
  generalize hlife : (start c used).run draw requests = life at hdistinct hdrawable hdraws ⊢
  have hnodup : life.uuids.Nodup := by
    rw [hdraws.uuids_eq]
    -- the identifiers are draws at different positions, and no draw repeats
    refine List.Nodup.map_on ?_ List.nodup_range'
    intro i hi j hj hsame
    obtain ⟨hfromI, hbelowI⟩ := List.mem_range'_1.1 hi
    obtain ⟨hfromJ, hbelowJ⟩ := List.mem_range'_1.1 hj
    rcases Nat.lt_trichotomy i j with h | h | h
    · exact absurd hsame (hdistinct j (by omega) i h hfromI)
    · exact h
    · exact absurd hsame.symm (hdistinct i (by omega) j h hfromJ)
  have hforms : ∀ uuid ∈ life.uuids, IsDrawable uuid := by
    intro uuid huuid
    rw [hdraws.uuids_eq] at huuid
    obtain ⟨i, hi, rfl⟩ := List.mem_map.1 huuid
    obtain ⟨hfrom, hbelow⟩ := List.mem_range'_1.1 hi
    exact hdrawable i (by omega) hfrom
  refine ⟨hnodup, ?_, ?_⟩
  · intro i j part other hpart hother
    have hmem := List.mem_of_getElem? hother
    obtain ⟨repository, hreference⟩ := hdraws.references_eq other hmem
    refine ⟨_, hreference, ?_⟩
    rw [Pattern.isMatch_reference_iff_of_isDrawable
      (hforms _ (uuid_mem_of_mem_parts (List.mem_of_getElem? hpart)))
      (hforms _ (uuid_mem_of_mem_parts hmem))]
    constructor
    · exact eq_of_uuid_eq (hnodup.sublist (uuids_parts_sublist life)) hpart hother
    · rintro rfl
      rw [hpart, Option.some.injEq] at hother
      rw [hother]
  · rintro before after rfl
    refine ⟨?_, fun config rest _ => compiles _ _⟩
    rw [← hlife, run_append]
    exact handouts_run _ _

/-- Two sections of one repository. -/
def twice : Config :=
  .ofSections [⟨"base", "Dockerfile", "", "app", [], false⟩,
    ⟨"app", "Dockerfile", "", "app", [.branch], false⟩]

/-- Requests that compile under drawn identifiers before and after they compile under fixed ones. -/
def changing : List Request :=
  [.compile twice, .next, .seed, .compile twice, .setSource (.fixed "x"), .compile ⟨0, []⟩, .next,
    .setSkipPush true, .randomize, .compile twice]

theorem identifiers_of_run_changing :
    ((start default 0).run uuidOfBits changing).used = 5 ∧
      ((start default 0).run uuidOfBits changing).uuids.Nodup ∧
      ∃ part other reference, ((start default 0).run uuidOfBits changing).parts[0]? = some part ∧
        ((start default 0).run uuidOfBits changing).parts[2]? = some other ∧
          other.references = [reference] ∧
            (Pattern.ofSuffix part.uuid).isMatch reference = false := by
  have hused : ((start default 0).run uuidOfBits changing).used = 5 := by decide +kernel
  have hdistinct : ∀ j < 5, ∀ i < j, uuidOfBits i ≠ uuidOfBits j := by decide +kernel
  have hparts : ((start default 0).run uuidOfBits changing).parts.length = 4 := by decide +kernel
  obtain ⟨hnodup, hpatterns, -⟩ := identifiers_of_run uuidOfBits default 0 changing
    (fun j hj i hi _ => hdistinct j (by omega) i hi) (fun i hi _ => ⟨i, by omega, rfl⟩)
  obtain ⟨reference, hreference, hmatch⟩ := hpatterns 0 2 _ _
    (List.getElem?_eq_getElem (by omega)) (List.getElem?_eq_getElem (by omega))
  refine ⟨hused, hnodup, _, _, reference, List.getElem?_eq_getElem (by omega),
    List.getElem?_eq_getElem (by omega), hreference, ?_⟩
  exact Bool.eq_false_iff.2 fun h => absurd (hmatch.1 h) (by decide)

end Life

end Compiler

end ImageBuild
