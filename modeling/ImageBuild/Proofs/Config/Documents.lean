import ImageBuild.Config.Load
import ImageBuild.Proofs.Json.Records

/-!
# What a document says

The configuration that a value of a document describes (`IsConfig`), and that a document which holds
a value is read as that configuration and no other (`Config.parse_eq_ok_iff`).
-/

namespace ImageBuild

open Json

/-- Strings that write a tag. -/
def IsTag (v : Value) (tag : TagSpec) : Prop := ∃ text, IsText v text ∧ tag = TagSpec.ofText text

/-- The fields of a section, in the order of their declaration. -/
def Section.fieldNames : List String :=
  ["name", "dockerfile", "registry", "project", "tags", "skip_push"]

/-- The fields of a configuration, in the order of their declaration. -/
def Config.fieldNames : List String := ["version", "containers"]

/-- A value that describes a section: a text for the name, the dockerfile and the project, perhaps
one for the registry, a list of tags and a truth value. -/
def IsSection (v : Value) (s : Section) : Prop :=
  ∃ ms, v.Members Section.fieldNames ms ∧ (∀ m ∈ ms, m.1.isSome = true) ∧
    Given IsText none "name" ms s.name ∧
    Given IsText none "dockerfile" ms s.dockerfile ∧
    Given IsText (some "") "registry" ms s.registry ∧
    Given IsText none "project" ms s.project ∧
    Given (IsList IsTag) (some []) "tags" ms s.tags ∧
    Given IsBoolean (some false) "skip_push" ms s.skipPush

/-- A value that describes a configuration: perhaps a version and a list of sections. -/
def IsConfig (v : Value) (c : Config) : Prop :=
  ∃ ms, v.Members Config.fieldNames ms ∧ (∀ m ∈ ms, m.1.isSome = true) ∧
    Given IsWord32 (some Config.currentVersion) "version" ms c.version ∧
    Given (IsList IsSection) (some []) "containers" ms c.sections

/-! ## Reading -/

theorem reads_tagSpec : Reads readTagSpec IsTag where
  blanks before cs hbefore := by
    rw [readTagSpec, readTagSpec, reads_text.blanks before cs hbefore]
  eq_ok_iff v cs h rest hrest tag rest' := by
    have hread : readTagSpec (cs ++ rest) =
        (readText (cs ++ rest)).map fun read => (TagSpec.ofText read.1, read.2) := by
      unfold readTagSpec
      cases readText (cs ++ rest) <;> rfl
    rw [hread, map_eq_ok_iff]
    simp only [Prod.exists, reads_text.eq_ok_iff v cs h rest hrest, Prod.mk.injEq]
    constructor
    · rintro ⟨text, _, ⟨htext, rfl⟩, rfl, rfl⟩
      exact ⟨⟨text, htext, rfl⟩, rfl⟩
    · rintro ⟨⟨text, htext, rfl⟩, rfl⟩
      exact ⟨text, _, ⟨htext, rfl⟩, rfl, rfl⟩

def sectionEntries : List (Entry Section) := [
  ⟨_, "name", true, readText, IsText, Section.name, fun s x => { s with name := x },
    fun _ _ => rfl, reads_text⟩,
  ⟨_, "dockerfile", true, readText, IsText, Section.dockerfile,
    fun s x => { s with dockerfile := x }, fun _ _ => rfl, reads_text⟩,
  ⟨_, "registry", false, readText, IsText, Section.registry, fun s x => { s with registry := x },
    fun _ _ => rfl, reads_text⟩,
  ⟨_, "project", true, readText, IsText, Section.project, fun s x => { s with project := x },
    fun _ _ => rfl, reads_text⟩,
  ⟨_, "tags", false, readList readTagSpec, IsList IsTag, Section.tags,
    fun s x => { s with tags := x }, fun _ _ => rfl, reads_list reads_tagSpec⟩,
  ⟨_, "skip_push", false, readBoolean, IsBoolean, Section.skipPush,
    fun s x => { s with skipPush := x }, fun _ _ => rfl, reads_boolean⟩]

theorem independent_sectionEntries : Independent sectionEntries where
  names := by decide
  get_keep := by simp [sectionEntries]
  ext := by
    intro s s' h
    simp only [sectionEntries, List.forall_mem_cons] at h
    obtain ⟨hname, hdockerfile, hregistry, hproject, htags, hskip, -⟩ := h
    cases s
    cases s'
    simp_all

theorem isRecord_sectionEntries {v : Value} {s : Section} :
    IsRecord sectionEntries sectionShape.empty v s ↔ IsSection v s := by
  unfold IsRecord IsSection
  simp [sectionEntries, sectionShape, Section.fieldNames]

theorem reads_section : Reads (readRecord sectionShape) IsSection := by
  have hreads : Reads (readRecord sectionShape) (IsRecord sectionEntries sectionShape.empty) :=
    reads_record independent_sectionEntries rfl
  have hmeans : IsRecord sectionEntries sectionShape.empty = IsSection :=
    funext fun v => funext fun s => propext isRecord_sectionEntries
  rwa [hmeans] at hreads

def configEntries : List (Entry Config) := [
  ⟨_, "version", false, readWord32, IsWord32, Config.version, fun c x => { c with version := x },
    fun _ _ => rfl, reads_word32⟩,
  ⟨_, "containers", false, readList (readRecord sectionShape), IsList IsSection, Config.sections,
    fun c x => { c with sections := x }, fun _ _ => rfl, reads_list reads_section⟩]

theorem independent_configEntries : Independent configEntries where
  names := by decide
  get_keep := by simp [configEntries]
  ext := by
    intro c c' h
    simp only [configEntries, List.forall_mem_cons] at h
    obtain ⟨hversion, hsections, -⟩ := h
    cases c
    cases c'
    simp_all

theorem isRecord_configEntries {v : Value} {c : Config} :
    IsRecord configEntries configShape.empty v c ↔ IsConfig v c := by
  unfold IsRecord IsConfig
  simp [configEntries, configShape, Config.fieldNames, Config.ofSections]

theorem reads_config : Reads (readRecord configShape) IsConfig := by
  have hreads : Reads (readRecord configShape) (IsRecord configEntries configShape.empty) :=
    reads_record independent_configEntries rfl
  have hmeans : IsRecord configEntries configShape.empty = IsConfig :=
    funext fun v => funext fun c => propext isRecord_configEntries
  rwa [hmeans] at hreads

/-- A document that holds a value is read as the one configuration that the value describes. -/
theorem Config.ofJson?_eq_ok_iff {v : Value} {document : String} (h : v.WrittenIn document.toList)
    {c : Config} : Config.ofJson? document = .ok c ↔ IsConfig v c := by
  obtain ⟨before, cs, after, hbefore, hvalue, hafter, hdocument⟩ := h
  have hdelimits : Delimits after := by
    have hend := Delimits.of_blanks hafter .nil
    rwa [List.append_nil] at hend
  have hread := fun c rest => reads_config.eq_ok_iff v cs hvalue after hdelimits c rest
  have hblanks : skipBlanks after = [] := by
    have hskip := skipBlanks_append hafter []
    rwa [List.append_nil] at hskip
  rw [Config.ofJson?, readDocument, readWhole, hdocument, reads_config.blanks before _ hbefore,
    bind_eq_ok_iff]
  constructor
  · rintro ⟨⟨c', rest⟩, hconfig, hend⟩
    obtain ⟨hmeans, rfl⟩ := (hread c' rest).1 hconfig
    dsimp only at hend
    rw [hblanks] at hend
    cases hend
    exact hmeans
  · intro hmeans
    refine ⟨_, (hread c after).2 ⟨hmeans, rfl⟩, ?_⟩
    dsimp only
    rw [hblanks]

theorem Config.parse_eq_ok_iff {v : Value} {document : String} (h : v.WrittenIn document.toList)
    {c : Config} : Config.parse document = .ok c ↔ IsConfig v c := by
  rw [← Config.ofJson?_eq_ok_iff h, Config.parse]
  cases Config.ofJson? document <;> simp

/-! ## Broken documents -/

/-- An object that names a field more than once. -/
def Json.Value.Repeats (names : List String) (v : Value) : Prop :=
  ∃ ms, v = .object ms ∧ ∃ name ∈ names, 2 ≤ (valuesOf name ms).length

/-- A value without one of the fields that it has to have. -/
def Json.Value.Omits (names required : List String) (v : Value) : Prop :=
  ∃ ms, v.Members names ms ∧ ∃ name ∈ required, valuesOf name ms = []

/-- A section in one of the lists that a value gives for the sections of a configuration. -/
def Json.Value.HoldsSection (v w : Value) : Prop :=
  ∃ ms vs, v.Members Config.fieldNames ms ∧ .list vs ∈ valuesOf "containers" ms ∧ w ∈ vs

/-- A value that repeats a field of a configuration or of one of its sections, or omits one that a
section has to have. -/
def Json.Value.IsBroken (v : Value) : Prop :=
  v.Repeats Config.fieldNames ∨ ∃ w, v.HoldsSection w ∧
    (w.Repeats Section.fieldNames ∨ w.Omits Section.fieldNames ["name", "dockerfile", "project"])

theorem Json.Value.Members.unique {names : List String} {v : Value}
    {ms ms' : List (Option String × Value)} (h : v.Members names ms) (h' : v.Members names ms') :
    ms = ms' := by
  cases h <;> cases h' <;> rfl

theorem Json.Given.length_le {β : Type} {Means : Value → β → Prop} {default : Option β}
    {name : String} {ms : List (Option String × Value)} {y : β}
    (h : Given Means default name ms y) : (valuesOf name ms).length ≤ 1 := by
  rcases h with ⟨_, hvalues, -⟩ | ⟨hvalues, -⟩ <;> simp [hvalues]

theorem Json.Given.ne_nil {β : Type} {Means : Value → β → Prop} {name : String}
    {ms : List (Option String × Value)} {y : β} (h : Given Means none name ms y) :
    valuesOf name ms ≠ [] := by
  rcases h with ⟨_, hvalues, -⟩ | ⟨-, hdefault⟩
  · simp [hvalues]
  · cases hdefault

theorem IsSection.not_repeats {v : Value} {s : Section} (h : IsSection v s) :
    ¬ v.Repeats Section.fieldNames := by
  rintro ⟨ms, rfl, name, hname, hlength⟩
  obtain ⟨_, hms, -, h₁, h₂, h₃, h₄, h₅, h₆⟩ := h
  cases hms
  have hall : ∀ name ∈ Section.fieldNames, (valuesOf name ms).length ≤ 1 := by
    simp only [Section.fieldNames, List.forall_mem_cons]
    exact ⟨h₁.length_le, h₂.length_le, h₃.length_le, h₄.length_le, h₅.length_le, h₆.length_le,
      nofun⟩
  exact absurd (hall name hname) (by omega)

theorem IsSection.not_omits {v : Value} {s : Section} (h : IsSection v s) :
    ¬ v.Omits Section.fieldNames ["name", "dockerfile", "project"] := by
  rintro ⟨ms, hms, name, hname, hnone⟩
  obtain ⟨ms', hms', -, hsectionName, hdockerfile, -, hproject, -, -⟩ := h
  obtain rfl := hms.unique hms'
  simp only [List.mem_cons, List.not_mem_nil, or_false] at hname
  rcases hname with rfl | rfl | rfl
  · exact hsectionName.ne_nil hnone
  · exact hdockerfile.ne_nil hnone
  · exact hproject.ne_nil hnone

theorem IsConfig.not_repeats {v : Value} {c : Config} (h : IsConfig v c) :
    ¬ v.Repeats Config.fieldNames := by
  rintro ⟨ms, rfl, name, hname, hlength⟩
  obtain ⟨_, hms, -, hversion, hsections⟩ := h
  cases hms
  have hall : ∀ name ∈ Config.fieldNames, (valuesOf name ms).length ≤ 1 := by
    simp only [Config.fieldNames, List.forall_mem_cons]
    exact ⟨hversion.length_le, hsections.length_le, nofun⟩
  exact absurd (hall name hname) (by omega)

theorem IsConfig.isSection {v w : Value} {c : Config} (h : IsConfig v c) (hw : v.HoldsSection w) :
    ∃ s, IsSection w s := by
  obtain ⟨ms, vs, hms, hvs, hmem⟩ := hw
  obtain ⟨ms', hms', -, -, hsections⟩ := h
  obtain rfl := hms.unique hms'
  rcases hsections with ⟨u, hvalues, us, rfl, hall⟩ | ⟨hvalues, -⟩
  · rw [hvalues, List.mem_singleton, Value.list.injEq] at hvs
    subst hvs
    obtain ⟨i, hi, rfl⟩ := List.getElem_of_mem hmem
    exact ⟨_, hall.get hi (hall.length_eq ▸ hi)⟩
  · rw [hvalues] at hvs
    cases hvs

theorem IsConfig.not_isBroken {v : Value} {c : Config} (h : IsConfig v c) : ¬ v.IsBroken := by
  rintro (hrepeats | ⟨w, hw, hsection⟩)
  · exact h.not_repeats hrepeats
  · obtain ⟨s, hs⟩ := h.isSection hw
    rcases hsection with hrepeats | homits
    · exact hs.not_repeats hrepeats
    · exact hs.not_omits homits

/-- A document whose value is broken is malformed. -/
theorem Config.parse_of_isBroken {v : Value} {document : String}
    (h : v.WrittenIn document.toList) (hbroken : v.IsBroken) :
    ∃ fault, Config.parse document = .error (.config (.malformed document fault)) := by
  unfold Config.parse
  cases hread : Config.ofJson? document with
  | error fault => exact ⟨fault, rfl⟩
  | ok c => exact absurd hbroken ((Config.ofJson?_eq_ok_iff h).1 hread).not_isBroken

end ImageBuild
