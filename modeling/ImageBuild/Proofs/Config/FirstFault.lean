import ImageBuild.Config.Validate
import Mathlib.Data.List.Nodup
import Mathlib.Data.List.Perm.Basic

/-!
# Which configurations are accepted

A configuration is accepted if its version is the current one, every section is sound by itself and
no name is used twice (`Config.IsWellFormed`). Otherwise the version is at fault, or the first
section that is not sound or has the name of a section before it (`Config.HasFirstFault`). What is looked at
from a section on depends on the sections before it only through their names, so that the fault of a
list of sections is said of the list cut in front of the section (`firstFault?_eq_some_iff`).
-/

namespace ImageBuild

/-! ## Sections -/

/-- Some character of a text is no white space. -/
def Text.IsVisible (s : String) : Prop :=
  ∃ c ∈ s.toList, isBlank c = false

theorem Text.isVisible_iff {s : String} : IsVisible s ↔ isBlankText s = false := by
  simp [isBlankText, IsVisible]

theorem Text.not_isVisible_iff {s : String} : ¬ IsVisible s ↔ isBlankText s = true := by
  rw [isVisible_iff, Bool.not_eq_false]

/-- A section that is not faulty by itself. -/
structure Section.IsSound (s : Section) : Prop where
  name : Text.IsVisible s.name
  dockerfile : Text.IsVisible s.dockerfile
  project : Text.IsVisible s.project
  tags : ∀ tag ∈ s.tags, Text.IsVisible tag.text

/-- What is wrong with a section behind others. Its own parts come first, in this order. -/
inductive Section.HasFault (before : List Section) (s : Section) : ConfigFault → Prop
  | name (h : ¬ Text.IsVisible s.name) : HasFault before s (.blankField before.length .name)
  | dockerfile (hname : Text.IsVisible s.name) (h : ¬ Text.IsVisible s.dockerfile) :
      HasFault before s (.blankField before.length .dockerfile)
  | project (hname : Text.IsVisible s.name) (hdockerfile : Text.IsVisible s.dockerfile)
      (h : ¬ Text.IsVisible s.project) : HasFault before s (.blankField before.length .project)
  | tag (hname : Text.IsVisible s.name) (hdockerfile : Text.IsVisible s.dockerfile)
      (hproject : Text.IsVisible s.project) (h : ∃ tag ∈ s.tags, ¬ Text.IsVisible tag.text) :
      HasFault before s (.blankTag s.name)
  | repeated (hsound : s.IsSound) (h : ∃ earlier ∈ before, earlier.name = s.name) :
      HasFault before s (.repeatedName s.name)

section Sections

variable {before sections : List Section} {names : List String} {s : Section} {fault : ConfigFault}

theorem Section.hasFault_of_blankField? {field : RequiredField} (h : s.blankField? = some field) :
    s.HasFault before (.blankField before.length field) := by
  unfold blankField? at h
  split_ifs at h with hname hdockerfile hproject
  · exact Option.some.inj h ▸ .name (Text.not_isVisible_iff.2 hname)
  · rw [Bool.not_eq_true, ← Text.isVisible_iff] at hname
    exact Option.some.inj h ▸ .dockerfile hname (Text.not_isVisible_iff.2 hdockerfile)
  · rw [Bool.not_eq_true, ← Text.isVisible_iff] at hname hdockerfile
    exact Option.some.inj h ▸ .project hname hdockerfile (Text.not_isVisible_iff.2 hproject)

theorem Section.blankField?_eq_none_iff : s.blankField? = none ↔
    Text.IsVisible s.name ∧ Text.IsVisible s.dockerfile ∧ Text.IsVisible s.project := by
  unfold blankField?
  simp only [Text.isVisible_iff]
  split_ifs <;> simp_all

theorem Section.any_blank_iff : (s.tags.any fun tag => Text.isBlankText tag.text) = true ↔
    ∃ tag ∈ s.tags, ¬ Text.IsVisible tag.text := by
  simp [Text.not_isVisible_iff]

theorem Section.isSound_iff : s.IsSound ↔
    s.blankField? = none ∧ ¬ (s.tags.any fun tag => Text.isBlankText tag.text) = true := by
  rw [blankField?_eq_none_iff, any_blank_iff]
  constructor
  · intro h
    refine ⟨⟨h.name, h.dockerfile, h.project⟩, ?_⟩
    rintro ⟨tag, hmem, hblank⟩
    exact hblank (h.tags tag hmem)
  · rintro ⟨⟨hname, hdockerfile, hproject⟩, htags⟩
    exact ⟨hname, hdockerfile, hproject,
      fun tag hmem => not_not.1 fun hblank => htags ⟨tag, hmem, hblank⟩⟩

/-- The fault of a section follows from its parts and the names before it. -/
theorem Section.fault?_eq_some_iff (hnames : ∀ name, name ∈ names ↔ ∃ e ∈ before, e.name = name) :
    s.fault? before.length names = some fault ↔ s.HasFault before fault := by
  unfold fault?
  constructor
  · intro h
    split at h
    · rename_i hfield
      exact Option.some.inj h ▸ hasFault_of_blankField? hfield
    · rename_i hfields
      split_ifs at h with htag hrepeated
      · obtain ⟨hname, hdockerfile, hproject⟩ := blankField?_eq_none_iff.1 hfields
        exact Option.some.inj h ▸ .tag hname hdockerfile hproject (any_blank_iff.1 htag)
      · exact Option.some.inj h ▸
          .repeated (isSound_iff.2 ⟨hfields, htag⟩) ((hnames _).1 hrepeated)
  · intro h
    cases h with
    | name h => simp [blankField?, Text.not_isVisible_iff.1 h]
    | dockerfile hname h =>
      simp [blankField?, Text.isVisible_iff.1 hname, Text.not_isVisible_iff.1 h]
    | project hname hdockerfile h =>
      simp [blankField?, Text.isVisible_iff.1 hname, Text.isVisible_iff.1 hdockerfile,
        Text.not_isVisible_iff.1 h]
    | tag hname hdockerfile hproject h =>
      rw [blankField?_eq_none_iff.2 ⟨hname, hdockerfile, hproject⟩]
      exact if_pos (any_blank_iff.2 h)
    | repeated hsound h =>
      obtain ⟨hfields, htags⟩ := isSound_iff.1 hsound
      rw [hfields]
      exact (if_neg htags).trans (if_pos ((hnames _).2 h))

theorem Section.fault?_eq_none_iff (hnames : ∀ name, name ∈ names ↔ ∃ e ∈ before, e.name = name) :
    s.fault? before.length names = none ↔ s.IsSound ∧ ∀ e ∈ before, e.name ≠ s.name := by
  have hnew : s.name ∉ names ↔ ∀ e ∈ before, e.name ≠ s.name := by
    rw [hnames]
    simp only [not_exists, not_and, ne_eq]
  rw [isSound_iff, ← hnew]
  unfold fault?
  constructor
  · intro h
    split at h
    · cases h
    · split_ifs at h with htag hrepeated
      exact ⟨⟨‹_›, htag⟩, hrepeated⟩
  · rintro ⟨⟨hfields, htags⟩, hname⟩
    rw [hfields]
    exact (if_neg htags).trans (if_neg hname)

end Sections

/-! ## Lists of sections -/

/-- Sections that are sound and have different names. -/
structure AcceptedSections (sections : List Section) : Prop where
  sound : ∀ s ∈ sections, s.IsSound
  distinct : (sections.map (·.name)).Nodup

theorem acceptedSections_nil : AcceptedSections [] :=
  ⟨nofun, List.nodup_nil⟩

theorem AcceptedSections.of_prefix {before after : List Section}
    (h : AcceptedSections (before ++ after)) : AcceptedSections before := by
  refine ⟨fun s hs => h.sound s (List.mem_append_left _ hs), ?_⟩
  have hdistinct := h.distinct
  rw [List.map_append] at hdistinct
  exact hdistinct.of_append_left

theorem acceptedSections_concat_iff {before : List Section} {s : Section} :
    AcceptedSections (before ++ [s]) ↔
      AcceptedSections before ∧ s.IsSound ∧ ∀ e ∈ before, e.name ≠ s.name := by
  constructor
  · intro h
    refine ⟨h.of_prefix, h.sound s (by simp), fun e he hname => ?_⟩
    have hdistinct := h.distinct
    rw [List.map_append, List.nodup_append] at hdistinct
    exact hdistinct.2.2 e.name (List.mem_map_of_mem he) s.name (by simp) hname
  · rintro ⟨h, hs, hnew⟩
    refine ⟨fun e he => ?_, ?_⟩
    · rcases List.mem_append.1 he with he | he
      · exact h.sound e he
      · exact List.mem_singleton.1 he ▸ hs
    · rw [List.map_append, List.nodup_append]
      refine ⟨h.distinct, List.nodup_singleton _, fun name hname name' hname' => ?_⟩
      obtain ⟨e, he, rfl⟩ := List.mem_map.1 hname
      obtain rfl : name' = s.name := by simpa using hname'
      exact hnew e he

theorem AcceptedSections.perm {sections sections' : List Section}
    (h : AcceptedSections sections) (hperm : sections.Perm sections') :
    AcceptedSections sections' :=
  ⟨fun s hs => h.sound s (hperm.mem_iff.2 hs), (hperm.map _).nodup_iff.1 h.distinct⟩

/-- The first section with a fault, behind sections that are accepted. -/
def FirstFault (before sections : List Section) (fault : ConfigFault) : Prop :=
  ∃ now s after, sections = now ++ s :: after ∧ AcceptedSections (before ++ now) ∧
    s.HasFault (before ++ now) fault

section Lists

variable {before sections : List Section} {names : List String} {s : Section} {fault : ConfigFault}

/-- A section that is at fault itself comes first. -/
theorem firstFault_cons_of_fault (hbefore : AcceptedSections before)
    (hnames : ∀ name, name ∈ names ↔ ∃ e ∈ before, e.name = name) {fault' : ConfigFault}
    (h : s.fault? before.length names = some fault') :
    FirstFault before (s :: sections) fault ↔ fault' = fault := by
  have hfault := (Section.fault?_eq_some_iff hnames).1 h
  constructor
  · rintro ⟨now, s', after, hsections, haccepted, hs'⟩
    cases now with
    | nil =>
      obtain ⟨rfl, -⟩ := List.cons.inj hsections
      rw [List.append_nil, ← Section.fault?_eq_some_iff hnames, h] at hs'
      exact Option.some.inj hs'
    | cons s'' now =>
      -- then this section would be accepted
      obtain ⟨rfl, -⟩ := List.cons.inj hsections
      rw [List.append_cons] at haccepted
      obtain ⟨-, hsound⟩ := acceptedSections_concat_iff.1 haccepted.of_prefix
      rw [(Section.fault?_eq_none_iff hnames).2 hsound] at h
      cases h
  · rintro rfl
    exact ⟨[], s, sections, rfl, by rwa [List.append_nil], by rwa [List.append_nil]⟩

/-- A section without a fault is passed over. -/
theorem firstFault_cons_of_accepted (h : AcceptedSections (before ++ [s])) :
    FirstFault before (s :: sections) fault ↔ FirstFault (before ++ [s]) sections fault := by
  constructor
  · rintro ⟨now, s', after, hsections, haccepted, hs'⟩
    cases now with
    | nil =>
      obtain ⟨rfl, -⟩ := List.cons.inj hsections
      rw [List.append_nil] at hs'
      obtain ⟨-, hsound, hnew⟩ := acceptedSections_concat_iff.1 h
      have hnames : ∀ name, name ∈ before.map (·.name) ↔ ∃ e ∈ before, e.name = name := by simp
      rw [← Section.fault?_eq_some_iff hnames,
        (Section.fault?_eq_none_iff hnames).2 ⟨hsound, hnew⟩] at hs'
      cases hs'
    | cons s'' now =>
      obtain ⟨rfl, hrest⟩ := List.cons.inj hsections
      rw [List.append_cons] at haccepted hs'
      exact ⟨now, s', after, hrest, haccepted, hs'⟩
  · rintro ⟨now, s', after, rfl, haccepted, hs'⟩
    rw [← List.append_cons] at haccepted hs'
    exact ⟨s :: now, s', after, rfl, haccepted, hs'⟩

theorem firstFault?_cons (position : Nat) (names : List String) (s : Section)
    (sections : List Section) : firstFault? position names (s :: sections) =
      (s.fault? position names).or (firstFault? (position + 1) (s.name :: names) sections) := by
  rw [firstFault?]
  cases s.fault? position names <;> rfl

theorem mem_names_concat (hnames : ∀ name, name ∈ names ↔ ∃ e ∈ before, e.name = name)
    (name : String) : name ∈ s.name :: names ↔ ∃ e ∈ before ++ [s], e.name = name := by
  rw [List.mem_cons, hnames]
  simp only [List.mem_append, List.mem_singleton, or_and_right, exists_or, exists_eq_left]
  rw [or_comm, eq_comm]

/-- The first fault of a list of sections is said of the sections, whatever names were noted. -/
theorem firstFault?_eq_some_iff (hbefore : AcceptedSections before)
    (hnames : ∀ name, name ∈ names ↔ ∃ e ∈ before, e.name = name) :
    firstFault? before.length names sections = some fault ↔ FirstFault before sections fault := by
  induction sections generalizing before names with
  | nil => simp [firstFault?, FirstFault]
  | cons s sections ih =>
    rw [firstFault?_cons]
    cases hs : s.fault? before.length names with
    | some fault' =>
      rw [firstFault_cons_of_fault hbefore hnames hs, Option.some_or, Option.some.injEq]
    | none =>
      have hnext : AcceptedSections (before ++ [s]) :=
        acceptedSections_concat_iff.2 ⟨hbefore, (Section.fault?_eq_none_iff hnames).1 hs⟩
      rw [firstFault_cons_of_accepted hnext, ← ih hnext (mem_names_concat hnames),
        List.length_append, List.length_singleton, Option.none_or]

theorem firstFault?_eq_none_iff (hbefore : AcceptedSections before)
    (hnames : ∀ name, name ∈ names ↔ ∃ e ∈ before, e.name = name) :
    firstFault? before.length names sections = none ↔ AcceptedSections (before ++ sections) := by
  induction sections generalizing before names with
  | nil => simpa [firstFault?] using hbefore
  | cons s sections ih =>
    rw [firstFault?_cons, Option.or_eq_none_iff, Section.fault?_eq_none_iff hnames,
      List.append_cons]
    constructor
    · rintro ⟨hs, hrest⟩
      have hnext := acceptedSections_concat_iff.2 ⟨hbefore, hs⟩
      refine (ih hnext (mem_names_concat hnames)).1 ?_
      rwa [List.length_append, List.length_singleton]
    · intro h
      have hnext := h.of_prefix
      refine ⟨(acceptedSections_concat_iff.1 hnext).2, ?_⟩
      have hrest := (ih hnext (mem_names_concat hnames)).2 h
      rwa [List.length_append, List.length_singleton] at hrest

end Lists

/-! ## Configurations -/

namespace Config

variable {c : Config} {fault : ConfigFault}

/-- A configuration of the current version whose sections are sound and have different names. -/
structure IsWellFormed (c : Config) : Prop where
  version : c.version = currentVersion
  sections : AcceptedSections c.sections

/-- The fault of a configuration that comes first: that of its version, or of its first section with
one. -/
inductive HasFirstFault (c : Config) : ConfigFault → Prop
  | version (h : c.version ≠ currentVersion) : HasFirstFault c (.unsupportedVersion c.version)
  | sections {fault : ConfigFault} (hversion : c.version = currentVersion)
      (h : FirstFault [] c.sections fault) : HasFirstFault c fault

theorem validate_eq_ok_iff_fault? : c.validate = .ok () ↔ c.fault? = none := by
  unfold validate
  cases c.fault? <;> simp

theorem validate_eq_error_iff_fault? : c.validate = .error fault ↔ c.fault? = some fault := by
  unfold validate
  cases c.fault? <;> simp

theorem validate_eq_ok_iff : c.validate = .ok () ↔ c.IsWellFormed := by
  have hsections : firstFault? 0 [] c.sections = none ↔ AcceptedSections c.sections :=
    firstFault?_eq_none_iff acceptedSections_nil (by simp)
  rw [validate_eq_ok_iff_fault?, fault?]
  constructor
  · intro h
    split_ifs at h with hversion
    exact ⟨not_not.1 hversion, hsections.1 h⟩
  · intro h
    rw [if_neg (not_not.2 h.version), hsections.2 h.sections]

theorem validate_eq_error_iff : c.validate = .error fault ↔ c.HasFirstFault fault := by
  have hsections : firstFault? 0 [] c.sections = some fault ↔ FirstFault [] c.sections fault :=
    firstFault?_eq_some_iff acceptedSections_nil (by simp)
  rw [validate_eq_error_iff_fault?, fault?]
  constructor
  · intro h
    split_ifs at h with hversion
    · exact Option.some.inj h ▸ .version hversion
    · exact .sections (not_not.1 hversion) (hsections.1 h)
  · intro h
    cases h with
    | version hversion => rw [if_pos hversion]
    | sections hversion h => rw [if_neg (not_not.2 hversion), hsections.2 h]

/-- More sections behind those of a configuration. -/
def extend (c : Config) (more : List Section) : Config :=
  { c with sections := c.sections ++ more }

/-- What is at fault stays at fault if more sections follow. -/
theorem HasFirstFault.extend (h : c.HasFirstFault fault) (more : List Section) :
    (c.extend more).HasFirstFault fault := by
  cases h with
  | version hversion => exact .version hversion
  | sections hversion h =>
    obtain ⟨now, s, after, hsections, haccepted, hs⟩ := h
    refine .sections hversion ⟨now, s, after ++ more, ?_, haccepted, hs⟩
    rw [Config.extend, hsections, List.append_assoc, List.cons_append]

/-- What accepts a configuration, and what refuses it. -/
structure Judgement (c : Config) : Prop where
  accepted_iff : c.validate = .ok () ↔ c.IsWellFormed
  refused_iff : ∀ fault, c.validate = .error fault ↔ c.HasFirstFault fault
  /-- The error does not depend on the sections behind the one at fault. -/
  extended : ∀ fault, c.validate = .error fault → ∀ more, (c.extend more).validate = .error fault
  /-- Whether a configuration is accepted does not depend on the order of its sections. -/
  reordered : ∀ sections, c.sections.Perm sections →
    (c.validate = .ok () ↔ ({ c with sections := sections } : Config).validate = .ok ())

/-- A configuration is accepted exactly if it is well-formed, and else refused for its first
fault. -/
theorem judgement (c : Config) : Judgement c := by
  constructor
  case accepted_iff => exact validate_eq_ok_iff
  case refused_iff => exact fun _ => validate_eq_error_iff
  case extended =>
    intro fault h more
    exact validate_eq_error_iff.2 ((validate_eq_error_iff.1 h).extend more)
  case reordered =>
    intro sections hperm
    rw [validate_eq_ok_iff, validate_eq_ok_iff]
    constructor
    · exact fun h => ⟨h.version, h.sections.perm hperm⟩
    · exact fun h => ⟨h.version, h.sections.perm hperm.symm⟩

/-- A section that is at fault itself and has the name of an earlier one is refused for its own
fault, in front of every later one. -/
example : (Config.ofSections [⟨"a", "f", "", "p", [], false⟩, ⟨"a", "f", "", "　", [], false⟩,
    ⟨"", "", "", "", [.literal ""], false⟩]).validate = .error (.blankField 1 .project) := by
  decide +kernel

end Config

end ImageBuild
