import ImageBuild.Proofs.Builder.Refusals

/-!
# One check for a trusted file

A trusted file is used in a course of checks and reads, while anything may happen to the files
around it. What is known about it changes with the first check only (`Course.trusted_run`), so that
it is the verdict of that moment from then on (`checked_once`). A section has a trusted file of its
own, which is judged when the section is set up.
-/

namespace ImageBuild

namespace TrustedFile

/-- What a check sees at some time. -/
structure Moment where
  files : FileSystem
  /-- The working directory of the process. -/
  cwd : Place

/-- The verdict on a dockerfile text and a root at some time. -/
def Moment.check (now : Moment) (file root : String) : Except SandboxFault Contained :=
  Sandbox.check now.files now.cwd file root

/-- What one can read of a trusted file. -/
structure Reading where
  file : String
  trust : Trust
  isOk : Bool
  path? : Option Place
  root? : Option Place
  fault? : Option SandboxFault

/-- What the reads of a trusted file answer. -/
def reading (t : TrustedFile) : Reading where
  file := t.file
  trust := t.trust
  isOk := t.contained?.isSome
  path? := t.contained?.map (·.file)
  root? := t.contained?.map (·.root)
  fault? := t.fault?

/-- The verdict as it is taken out of a trusted file in the end: the file is checked first, and then
what is known is taken. There is none if nothing is known even then. -/
def intoResult? (now : Moment) (t : TrustedFile) : Option (Except SandboxFault Contained) :=
  match (t.sanitize now.files now.cwd).trust with
  | .unchecked => none
  | .accepted contained => some (.ok contained)
  | .refused fault => some (.error fault)

/-- Something that happens to a trusted file or around it. -/
inductive Use
  | sanitize
  | read
  /-- The files or the working directory become others. -/
  | change (now : Moment)

/-- A trusted file at some time, with what was read of it so far. -/
structure Course where
  trusted : TrustedFile
  now : Moment
  readings : List Reading

namespace Course

/-- A new trusted file. -/
def start (now : Moment) (file root : String) : Course :=
  ⟨ofPath file root, now, []⟩

def next (c : Course) : Use → Course
  | .sanitize => { c with trusted := c.trusted.sanitize c.now.files c.now.cwd }
  | .read => { c with readings := c.readings ++ [c.trusted.reading] }
  | .change now => { c with now := now }

def run (c : Course) (uses : List Use) : Course :=
  uses.foldl next c

end Course

variable {t : TrustedFile} {c : Course} {u : Use} {uses before after more : List Use}
  {now : Moment} {file root : String}

/-! ## One step -/

theorem sanitize_of_unchecked (h : t.trust = .unchecked) (now : Moment) :
    t.sanitize now.files now.cwd = { t with trust := .ofVerdict (now.check t.file t.root) } := by
  unfold sanitize
  rw [h]
  rfl

theorem sanitize_of_checked (h : t.trust ≠ .unchecked) (now : Moment) :
    t.sanitize now.files now.cwd = t := by
  unfold sanitize
  split
  · exact absurd ‹_› h
  · rfl

theorem ofVerdict_ne_unchecked (v : Except SandboxFault Contained) :
    Trust.ofVerdict v ≠ .unchecked := by
  cases v <;> exact Trust.noConfusion

/-- Nothing but a check changes what is known. -/
theorem Course.trusted_next_of_ne (h : u ≠ .sanitize) : (c.next u).trusted = c.trusted := by
  cases u with
  | sanitize => exact absurd rfl h
  | read => rfl
  | change now => rfl

/-- What is known once is not changed. -/
theorem Course.trusted_next_of_checked (h : c.trusted.trust ≠ .unchecked) (u : Use) :
    (c.next u).trusted = c.trusted := by
  cases u with
  | sanitize => exact sanitize_of_checked h c.now
  | read => rfl
  | change now => rfl

/-! ## A course -/

namespace Course

theorem run_append (c : Course) (before after : List Use) :
    c.run (before ++ after) = (c.run before).run after :=
  List.foldl_append

theorem trusted_run_of_not_mem (h : .sanitize ∉ uses) : (c.run uses).trusted = c.trusted := by
  induction uses generalizing c with
  | nil => rfl
  | cons u uses ih =>
    rw [List.mem_cons, not_or] at h
    exact (ih h.2).trans (trusted_next_of_ne (Ne.symm h.1))

theorem trusted_run_of_checked (h : c.trusted.trust ≠ .unchecked) (uses : List Use) :
    (c.run uses).trusted = c.trusted := by
  induction uses generalizing c with
  | nil => rfl
  | cons u uses ih =>
    have hnext := trusted_next_of_checked h u
    exact (ih (hnext ▸ h)).trans hnext

/-- The first check founds what is known from then on. -/
theorem trusted_run (h : c.trusted.trust = .unchecked) (hbefore : .sanitize ∉ before) :
    (c.run (before ++ .sanitize :: after)).trusted =
      { c.trusted with
        trust := .ofVerdict ((c.run before).now.check c.trusted.file c.trusted.root) } := by
  have hcheck : ((c.run before).next .sanitize).trusted = { c.trusted with
      trust := .ofVerdict ((c.run before).now.check c.trusted.file c.trusted.root) } := by
    have hsame := trusted_run_of_not_mem (c := c) hbefore
    rw [← hsame] at h ⊢
    exact sanitize_of_unchecked h _
  rw [run_append, ← hcheck]
  refine trusted_run_of_checked ?_ after
  rw [hcheck]
  exact ofVerdict_ne_unchecked _

/-- Everything that was read is what was known at the time. -/
theorem exists_of_mem_readings {r : Reading} (h : r ∈ ((start now file root).run uses).readings) :
    ∃ before after, uses = before ++ .read :: after ∧
      r = ((start now file root).run before).trusted.reading := by
  induction uses using List.reverseRecOn with
  | nil => cases h
  | append_singleton uses u ih =>
    have hearlier : r ∈ ((start now file root).run uses).readings → ∃ before after,
        uses ++ [u] = before ++ .read :: after ∧
          r = ((start now file root).run before).trusted.reading := by
      intro hmem
      obtain ⟨before, after, rfl, hr⟩ := ih hmem
      exact ⟨before, after ++ [u], by simp, hr⟩
    rw [run_append] at h
    cases u with
    | sanitize => exact hearlier h
    | read =>
      rcases List.mem_append.1 h with h | h
      · exact hearlier h
      · exact ⟨uses, [], rfl, List.mem_singleton.1 h⟩
    | change now => exact hearlier h

end Course

/-! ## What is taken out -/

theorem intoResult?_of_unchecked (h : t.trust = .unchecked) (now : Moment) :
    t.intoResult? now = some (now.check t.file t.root) := by
  unfold intoResult?
  rw [sanitize_of_unchecked h now]
  cases now.check t.file t.root <;> rfl

theorem intoResult?_of_ofVerdict {v : Except SandboxFault Contained} (h : t.trust = .ofVerdict v)
    (now : Moment) : t.intoResult? now = some v := by
  unfold intoResult?
  rw [sanitize_of_checked (h ▸ ofVerdict_ne_unchecked v), h]
  cases v <;> rfl

/-- Taking out checks a file that is not checked yet, so that there is always something known. -/
theorem intoResult?_eq_verdict (t : TrustedFile) (now : Moment) :
    t.intoResult? now = some (t.verdict now.files now.cwd) := by
  rcases htrust : t.trust with _ | contained | fault
  · rw [intoResult?_of_unchecked htrust now, verdict, htrust]
    rfl
  · rw [intoResult?_of_ofVerdict (v := .ok contained) htrust now, verdict, htrust]
  · rw [intoResult?_of_ofVerdict (v := .error fault) htrust now, verdict, htrust]

/-! ## What is read -/

theorem contained?_eq_some_iff {contained : Contained} :
    t.contained? = some contained ↔ t.trust = .accepted contained := by
  unfold contained?
  cases t.trust <;> simp

theorem fault?_eq_some_iff {fault : SandboxFault} :
    t.fault? = some fault ↔ t.trust = .refused fault := by
  unfold fault?
  cases t.trust <;> simp

/-- What a trusted file is after a course of uses: it was checked once at most, and the verdict of
that time stands. -/
structure CheckedOnce (file root : String) (now : Moment) (uses : List Use) (c : Course) :
    Prop where
  unchecked : .sanitize ∉ uses → c.trusted = ofPath file root
  /-- The first check founds what is known, whatever the files become later. -/
  founded : ∀ before after, uses = before ++ .sanitize :: after → .sanitize ∉ before →
    c.trusted =
      ⟨file, root, .ofVerdict (((Course.start now file root).run before).now.check file root)⟩
  kept : c.trusted.trust ≠ .unchecked → ∀ more, (c.run more).trusted = c.trusted
  /-- There is always a verdict to take out: the one that stands, or else one of the present. -/
  taken : c.trusted.intoResult? c.now = some (c.trusted.verdict c.now.files c.now.cwd)
  taken_of_unchecked : c.trusted.trust = .unchecked →
    c.trusted.intoResult? c.now = some (c.now.check file root)
  taken_of_checked : ∀ v, c.trusted.trust = .ofVerdict v → c.trusted.intoResult? c.now = some v
  /-- Every read answers what was known at the time. -/
  readings : ∀ r ∈ c.readings, ∃ before after, uses = before ++ .read :: after ∧
    r = ((Course.start now file root).run before).trusted.reading
  isOk_iff : c.trusted.reading.isOk ↔ ∃ contained, c.trusted.trust = .accepted contained
  path?_iff : ∀ p, c.trusted.reading.path? = some p ↔
    ∃ contained, c.trusted.trust = .accepted contained ∧ contained.file = p
  root?_iff : ∀ p, c.trusted.reading.root? = some p ↔
    ∃ contained, c.trusted.trust = .accepted contained ∧ contained.root = p
  fault?_iff : ∀ fault, c.trusted.reading.fault? = some fault ↔ c.trusted.trust = .refused fault
  /-- A new trusted file is judged by the files of the present. -/
  anew : validate c.now.files c.now.cwd file root =
    ⟨file, root, .ofVerdict (c.now.check file root)⟩
  /-- So is the dockerfile of a section, which is refused … -/
  section_refused : ∀ {σ : Type} (settings : Settings σ) (b : Builder) (w : World σ)
    (plan : SectionPlan) (fault : SandboxFault), b.next = some plan →
    Moment.check ⟨w.files, w.cwd⟩ plan.dockerfile settings.context = .error fault →
    b.setup settings w = (w, .error (.sandbox fault))
  /-- … or staged from where it is then. -/
  section_staged : ∀ {σ : Type} (settings : Settings σ) (b : Builder) (w : World σ)
    (plan : SectionPlan) (contained : Contained) (place : Place), b.next = some plan →
    Moment.check ⟨w.files, w.cwd⟩ plan.dockerfile settings.context = .ok contained →
    b.workdir = some place → b.setup settings w =
      ({ w with files := (w.files.stage contained place).2.1 }.log
          (w.files.stage contained place).1,
        (w.files.stage contained place).2.2.mapError .staging)

theorem checked_once (file root : String) (now : Moment) (uses : List Use) :
    CheckedOnce file root now uses ((Course.start now file root).run uses) := by
  have hnew : (Course.start now file root).trusted.trust = .unchecked := rfl
  constructor
  case unchecked => exact fun h => Course.trusted_run_of_not_mem h
  case founded =>
    rintro before after rfl hbefore
    exact Course.trusted_run hnew hbefore
  case kept => exact fun h more => Course.trusted_run_of_checked h more
  case taken => exact intoResult?_eq_verdict _ _
  case taken_of_unchecked =>
    intro h
    by_cases hmem : .sanitize ∈ uses
    · -- then there is a first check
      obtain ⟨before, after, rfl, hbefore⟩ := List.eq_append_cons_of_mem hmem
      rw [Course.trusted_run hnew hbefore] at h
      exact absurd h (ofVerdict_ne_unchecked _)
    · rw [intoResult?_of_unchecked h, Course.trusted_run_of_not_mem hmem]
      rfl
  case taken_of_checked => exact fun v h => intoResult?_of_ofVerdict h _
  case readings => exact fun r => Course.exists_of_mem_readings
  case isOk_iff =>
    change Option.isSome _ = true ↔ _
    simp only [Option.isSome_iff_exists, contained?_eq_some_iff]
  case path?_iff =>
    intro p
    change Option.map _ _ = some p ↔ _
    simp only [Option.map_eq_some_iff, contained?_eq_some_iff]
  case root?_iff =>
    intro p
    change Option.map _ _ = some p ↔ _
    simp only [Option.map_eq_some_iff, contained?_eq_some_iff]
  case fault?_iff => exact fun fault => fault?_eq_some_iff
  case anew => rfl
  case section_refused =>
    intro σ settings b w plan fault hnext hcheck
    exact Builder.setup_of_refused hnext hcheck
  case section_staged =>
    intro σ settings b w plan contained place hnext hcheck hworkdir
    exact Builder.Accepts.setup_of_workdir ⟨plan, hnext, hcheck⟩ hworkdir

end TrustedFile

end ImageBuild
