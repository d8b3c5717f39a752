import Mathlib.Data.String.Basic
import ImageBuild.Proofs.Builder.Leftovers
import ImageBuild.Proofs.Builder.Lifetimes
import ImageBuild.Proofs.StagingFaults

/-!
# The names of working directories

What preparing a section comes to does not depend on the name of its working directory, if nothing
names it and the context does not hold it: its dockerfile is judged and its context is archived as
if the directory were not there, and what fits into it depends on the length of the name only
(`setup_eq_foreseen`). Names with six digits are as long, so runs in worlds that come to other names
prepare their sections in the same way (`Interchangeable`).
-/

namespace ImageBuild

variable {σ : Type} {settings : Settings σ} {b b' b₁ : Builder} {w w₁ w₂ w₃ v : World σ}
  {plan : SectionPlan} {dir place place' : Place} {texts : List String} {n : Name} {count : Nat}

/-! ## Fresh names -/

/-- Nothing in a world has a name, no link leads by it, and some texts do not name it. -/
structure World.Unnamed (w : World σ) (texts : List String) (n : Name) : Prop where
  files : ∀ entry ∈ w.files.nodes, n ∉ entry.1 ∧ ¬ entry.2.LinksBy n
  cwd : n ∉ w.cwd
  temp : ¬ NamedIn n w.temp
  texts : ∀ text ∈ texts, ¬ NamedIn n text

instance (w : World σ) (texts : List String) (n : Name) : Decidable (w.Unnamed texts n) :=
  decidable_of_iff ((∀ entry ∈ w.files.nodes, n ∉ entry.1 ∧ ¬ entry.2.LinksBy n) ∧ n ∉ w.cwd ∧
      ¬ NamedIn n w.temp ∧ ∀ text ∈ texts, ¬ NamedIn n text)
    ⟨fun h => ⟨h.1, h.2.1, h.2.2.1, h.2.2.2⟩, fun h => ⟨h.files, h.cwd, h.temp, h.texts⟩⟩

/-- The next names of working directories are unnamed, and their numbers have six digits. -/
structure World.Fresh (w : World σ) (texts : List String) (count : Nat) : Prop where
  unnamed : ∀ i < count, w.Unnamed texts (Builder.workdirName (w.serial + i))
  room : w.serial + count ≤ 10 ^ 6

instance (w : World σ) (texts : List String) (count : Nat) : Decidable (w.Fresh texts count) :=
  decidable_of_iff ((∀ i < count, w.Unnamed texts (Builder.workdirName (w.serial + i))) ∧
      w.serial + count ≤ 10 ^ 6)
    ⟨fun h => ⟨h.1, h.2⟩, fun h => ⟨h.unnamed, h.room⟩⟩

theorem World.Unnamed.mono {texts' : List String} (h : w.Unnamed texts n) (hw : w₁.files = w.files)
    (hcwd : w₁.cwd = w.cwd) (htemp : w₁.temp = w.temp) (htexts : texts' ⊆ texts) :
    w₁.Unnamed texts' n :=
  ⟨hw ▸ h.files, hcwd ▸ h.cwd, htemp ▸ h.temp, fun text ht => h.texts text (htexts ht)⟩

theorem World.Unnamed.lookup_eq_none (h : w.Unnamed texts n) (hn : n ∈ place) :
    w.files.lookup place = none := by
  rw [Option.eq_none_iff_forall_ne_some]
  intro node hl
  have hne : place ≠ [] := List.ne_nil_of_mem hn
  exact (h.files _ (FileSystem.mem_nodes_of_lookup hne hl)).1 hn

/-- What is put at a place of that name is aside. -/
theorem World.Unnamed.aside (h : w.Unnamed texts n) (hn : n ∈ place) (node : Node) :
    (w.files.insert place node).Aside place n := by
  refine ⟨hn, fun entry he hbelow => ?_⟩
  rcases FileSystem.mem_replace he with rfl | he
  · exact absurd List.prefix_rfl hbelow
  · exact h.files entry he

namespace Builder

theorem utf8Len_eq_length {cs : List Char} (h : ∀ c ∈ cs, c.utf8Size = 1) :
    String.utf8Len cs = cs.length := by
  induction cs with
  | nil => rfl
  | cons c cs ih =>
    rw [List.forall_mem_cons] at h
    rw [String.utf8Len_cons, ih h.2, h.1, List.length_cons]

theorem utf8ByteSize_workdirName {m : Nat} (h : m < 10 ^ 6) :
    (workdirName m).utf8ByteSize = workdirPrefix.toList.length + 6 := by
  have hfront : workdirPrefix.toList.all (·.utf8Size = 1) = true := by decide +kernel
  have hdigits : (Nat.toDigits 10 m).length ≤ 6 :=
    (Nat.length_toDigits_le_iff (by decide) (by decide)).2 h
  have hbytes : ∀ c ∈ (workdirName m).toList, c.utf8Size = 1 := by
    intro c hc
    rcases mem_or_isDigit_of_mem_workdirName hc with hc | hc
    · exact of_decide_eq_true (List.all_eq_true.1 hfront c hc)
    · rw [Char.isDigit, Bool.and_eq_true, decide_eq_true_eq, decide_eq_true_eq] at hc
      rw [Char.utf8Size_eq_one_iff]
      exact UInt32.le_trans hc.2 (by decide)
  rw [← String.utf8Len_toList, utf8Len_eq_length hbytes, workdirName_toList,
    length_paddedName _ hdigits]

theorem sameLengths_workdirName (dir : Place) {m m' : Nat} (h : m < 10 ^ 6) (h' : m' < 10 ^ 6) :
    Place.SameLengths (dir ++ [workdirName m]) (dir ++ [workdirName m']) := by
  refine (Place.SameLengths.refl dir).append (.cons ?_ .nil)
  rw [utf8ByteSize_workdirName h, utf8ByteSize_workdirName h']

/-! ## Getting a working directory -/

theorem freeNumber_of_unnamed (h : w.Unnamed texts (workdirName w.serial)) (dir : Place) :
    freeNumber w.files dir w.serial = w.serial := by
  have hfree : w.files.lookup (dir ++ [workdirName (w.serial + 0)]) = none :=
    h.lookup_eq_none (by simp)
  unfold freeNumber
  dsimp only
  rw [List.range_succ_eq_map, List.find?_cons_of_pos (by rw [hfree]; rfl)]
  rfl

/-- A world after the working directory of the next name was made. -/
def allotted (w : World σ) (dir : Place) : World σ :=
  { w with
    files := w.files.insert (dir ++ [workdirName w.serial]) (.dir workdirMode)
    serial := w.serial + 1 }

/-- Getting a working directory fails, or it has the next name. -/
theorem allocate_of_unnamed (h : w.Unnamed texts (workdirName w.serial)) :
    allocate w =
      match w.files.resolve w.cwd w.temp with
      | .error fault => (w, .error fault)
      | .ok dir =>
        if !w.files.isDirAt dir then (w, .error .notADirectory)
        else if pathLimit ≤ (Place.text (dir ++ [workdirName w.serial])).utf8ByteSize then
          (w, .error .nameTooLong)
        else (allotted w dir, .ok (dir ++ [workdirName w.serial])) := by
  unfold allocate
  cases w.files.resolve w.cwd w.temp with
  | error fault => rfl
  | ok dir =>
    dsimp only
    rw [freeNumber_of_unnamed h]
    rfl

/-! ## Setting up -/

/-- What setting up in a new working directory comes to, by the files before it was made. -/
def foreseen (context dockerfile : String) (fs : FileSystem) (cwd workdir : Place) :
    Except BuildError Unit :=
  match Sandbox.check fs cwd dockerfile context with
  | .error fault => .error (.sandbox fault)
  | .ok c =>
    match Contained.stagingFault? (fs.archive [] c.root.text).2 workdir with
    | some fault => .error (.staging fault)
    | none => .ok ()

theorem foreseen_congr (h : place.SameLengths place') (context dockerfile : String)
    (fs : FileSystem) (cwd : Place) :
    foreseen context dockerfile fs cwd place = foreseen context dockerfile fs cwd place' := by
  unfold foreseen
  simp only [Contained.stagingFault?_congr h]

end Builder

/-- The context of a run does not hold the directory in which working directories are made. -/
def World.TempOutside (w : World σ) (context : String) : Prop :=
  ∀ root dir, w.files.canonical w.cwd context = .ok root → w.files.resolve w.cwd w.temp = .ok dir →
    ¬ root <+: dir

variable {context dockerfile : String} {c : Contained} {node : Node}

theorem World.TempOutside.not_prefix (h : w.TempOutside context)
    (hdir : w.files.resolve w.cwd w.temp = .ok dir)
    (hcheck : Sandbox.check w.files w.cwd dockerfile context = .ok c) (hn : n ∉ c.root) :
    ¬ c.root <+: dir ++ [n] := by
  rw [List.prefix_concat_iff]
  rintro (hroot | hprefix)
  · exact hn (by simp [hroot])
  · exact h c.root dir (Sandbox.check_eq_ok_iff.1 hcheck).1 hdir hprefix

/-- A dockerfile is judged as if nothing had been put at a place that nothing names. -/
theorem World.Unnamed.check_insert (h : w.Unnamed [context, dockerfile] n) (hn : n ∈ place)
    (hne : n ≠ "") (hw : w.files.WellFormed) (hw' : (w.files.insert place node).WellFormed) :
    Sandbox.check (w.files.insert place node) w.cwd dockerfile context =
      Sandbox.check w.files w.cwd dockerfile context := by
  have hcontext := h.texts context (by simp)
  have hdockerfile := h.texts dockerfile (by simp)
  have hcheck := (h.aside hn node).check_erase hw' hne h.cwd hdockerfile hcontext
  rw [hw.erase_insert_of_free (h.lookup_eq_none hn)] at hcheck
  exact hcheck.symm

namespace Builder

/-- The working directory itself is not seen when a section is set up in it. -/
theorem setup_eq_foreseen (hw : w.files.WellFormed)
    (hnew : w.Unnamed [settings.context, plan.dockerfile] (workdirName w.serial))
    (houtside : w.TempOutside settings.context) (hb : b.workdir = none)
    (hclean : b.clean w = (b₁, w₁, .ok ())) (hplace : b₁.workdir = some place) :
    (setup settings (b₁.bind plan) w₁).2 =
      foreseen settings.context plan.dockerfile w.files w.cwd place := by
  obtain ⟨hw₁, hallocated⟩ := allocated_of_clean hw hclean hplace
  obtain ⟨place', hplace', ha⟩ := allocate_of_clean hclean
  obtain rfl : place = place' := Option.some.inj (hplace.symm.trans hplace')
  rw [release_of_none hb] at ha hallocated
  obtain ⟨dir, hdir, -, hname, -, rfl⟩ := allocate_eq_ok ha
  rw [freeNumber_of_unnamed hnew] at hname
  have hn : workdirName w.serial ∈ place := by simp [hname]
  have hne : workdirName w.serial ≠ "" := (isEntryName_workdirName _).1
  have hverdict : (TrustedFile.ofPath plan.dockerfile settings.context).verdict
      (w.files.insert place (.dir workdirMode)) w.cwd =
      Sandbox.check w.files w.cwd plan.dockerfile settings.context :=
    hnew.check_insert hn hne hw hw₁
  unfold setup bind foreseen
  dsimp only
  rw [hverdict, hplace]
  cases hc : Sandbox.check w.files w.cwd plan.dockerfile settings.context with
  | error fault => rfl
  | ok c =>
    have hc₁ := hverdict.trans hc
    have hinside := Sandbox.isInside_of_check hw₁ hc₁
    -- the context is archived as if the working directory were not there
    have haside := hnew.aside hn (.dir workdirMode)
    obtain ⟨hroot, -⟩ := haside.not_mem_of_check hw₁ hne hnew.cwd
      (hnew.texts plan.dockerfile (by simp)) (hnew.texts settings.context (by simp)) hc₁
    have hup : ¬ c.root <+: place := hname ▸ houtside.not_prefix hdir hc hroot
    have hcwd : workdirName w.serial ∉ ([] : Place) := List.not_mem_nil
    have harchive := haside.archive_erase hinside.root_resolved hroot hup hcwd
    rw [hw.erase_insert_of_free hallocated.free] at harchive
    have hstage := hw₁.stage_result hinside.root_resolved hinside.isFile hallocated.isDir
      hallocated.empty
    dsimp only at hstage ⊢
    rw [← harchive] at hstage
    rcases hresult : (w.files.insert place (.dir workdirMode)).stage c place with
      ⟨records, files, result⟩
    rw [hresult] at hstage
    dsimp only at hstage ⊢
    rw [hstage]
    cases Contained.stagingFault? (w.files.archive [] c.root.text).2 place <;> rfl

/-! ## The end of a section -/

theorem serial_release (b : Builder) (w : World σ) : (b.release w).2.serial = w.serial := by
  unfold release
  split
  · rfl
  · dsimp only
    split <;> rfl

end Builder

/-- Two worlds with the same files, but for one more name of a working directory that is used up in
the second one. -/
structure World.OneNameOn (w w' : World σ) : Prop where
  files : w'.files = w.files
  cwd : w'.cwd = w.cwd
  temp : w'.temp = w.temp
  serial : w'.serial = w.serial + 1

/-- When the working directory of a section is given up, only its name is used up. -/
theorem Prepared.oneNameOn (h : Prepared settings b plan w b₁ w₁ place w₂) (hw : w.files.WellFormed)
    (hnew : w.Unnamed texts (Builder.workdirName w.serial)) (hb : b.workdir = none)
    (hsame : w₂.SameFiles w₃) : w.OneNameOn ((b₁.bind plan).release w₃).2 := by
  have hgot := (Accounted.start w hb).clean hw
  rw [h.clean] at hgot
  have hstaged := (hgot.bind plan).setup hw settings
  rw [h.setup] at hstaged
  have hend := (hstaged.idle hsame).release
  have hserial : w₁.serial = w.serial + 1 := by
    obtain ⟨q, -, ha⟩ := Builder.allocate_of_clean h.clean
    rw [Builder.release_of_none hb] at ha
    obtain ⟨dir, -, -, -, -, rfl⟩ := Builder.allocate_eq_ok ha
    exact congrArg (· + 1) (Builder.freeNumber_of_unnamed hnew dir)
  have hsetup := Builder.serial_setup settings (b₁.bind plan) w₁
  rw [h.setup] at hsetup
  refine ⟨hend.free (Builder.workdir_release _ _), hend.cwd, hend.temp, ?_⟩
  rw [Builder.serial_release, hsame.serial, hsetup, hserial]

theorem World.Fresh.next {w' : World σ} {texts' : List String} (h : w.Fresh texts (count + 1))
    (hw : w.OneNameOn w') (htexts : texts' ⊆ texts) : w'.Fresh texts' count := by
  refine ⟨fun i hi => ?_, ?_⟩
  · have hname : w'.serial + i = w.serial + (i + 1) := by
      rw [hw.serial]
      omega
    rw [hname]
    exact (h.unnamed (i + 1) (by omega)).mono hw.files hw.cwd hw.temp htexts
  · have hroom := h.room
    rw [hw.serial]
    omega

/-! ## Other names -/

/-- Two worlds with the same files in which the next names of working directories are fresh. -/
structure Interchangeable (settings : Settings σ) (dockerfiles : List String) (w v : World σ) :
    Prop where
  wellFormed : w.files.WellFormed
  files : v.files = w.files
  cwd : v.cwd = w.cwd
  temp : v.temp = w.temp
  outside : w.TempOutside settings.context
  left : w.Fresh (settings.context :: dockerfiles) dockerfiles.length
  right : v.Fresh (settings.context :: dockerfiles) dockerfiles.length

namespace Interchangeable

variable {dockerfile : String} {dockerfiles : List String}

/-- The worlds after a section, in which one more name is used up. -/
theorem next {w' v' : World σ} (h : Interchangeable settings (dockerfile :: dockerfiles) w v)
    (hw : w.OneNameOn w') (hv : v.OneNameOn v') :
    Interchangeable settings dockerfiles w' v' := by
  have hsub : settings.context :: dockerfiles ⊆ settings.context :: dockerfile :: dockerfiles :=
    List.cons_subset_cons _ (List.subset_cons_self _ _)
  refine ⟨hw.files ▸ h.wellFormed, ?_, ?_, ?_, ?_, h.left.next hw hsub, h.right.next hv hsub⟩
  · rw [hv.files, hw.files, h.files]
  · rw [hv.cwd, hw.cwd, h.cwd]
  · rw [hv.temp, hw.temp, h.temp]
  · unfold World.TempOutside
    rw [hw.files, hw.cwd, hw.temp]
    exact h.outside

theorem unnamed_left (h : Interchangeable settings (dockerfile :: dockerfiles) w v) :
    w.Unnamed [settings.context, dockerfile] (Builder.workdirName w.serial) :=
  (h.left.unnamed 0 (Nat.succ_pos _)).mono rfl rfl rfl (by simp)

theorem unnamed_right (h : Interchangeable settings (dockerfile :: dockerfiles) w v) :
    v.Unnamed [settings.context, dockerfile] (Builder.workdirName v.serial) :=
  (h.right.unnamed 0 (Nat.succ_pos _)).mono rfl rfl rfl (by simp)

theorem sameLengths (h : Interchangeable settings (dockerfile :: dockerfiles) w v) (dir : Place) :
    Place.SameLengths (dir ++ [Builder.workdirName w.serial])
      (dir ++ [Builder.workdirName v.serial]) := by
  have hleft := h.left.room
  have hright := h.right.room
  rw [List.length_cons] at hleft hright
  exact Builder.sameLengths_workdirName dir (by omega) (by omega)

/-- In both worlds there is a working directory whose name is as long, or there is none, for the same
reason. -/
theorem clean_cases (h : Interchangeable settings (dockerfile :: dockerfiles) w v)
    (hb : b.workdir = none) (hb' : b'.workdir = none) :
    (∃ e, b.clean w = (b, w, .error e) ∧ b'.clean v = (b', v, .error e)) ∨
      ∃ b₁ w₁ place b₁' v₁ place', b.clean w = (b₁, w₁, .ok ()) ∧ b₁.workdir = some place ∧
        b'.clean v = (b₁', v₁, .ok ()) ∧ b₁'.workdir = some place' ∧ place.SameLengths place' := by
  unfold Builder.clean
  rw [Builder.release_of_none hb, Builder.release_of_none hb']
  dsimp only
  rw [Builder.allocate_of_unnamed h.unnamed_left, Builder.allocate_of_unnamed h.unnamed_right,
    h.files, h.cwd, h.temp]
  cases hdir : w.files.resolve w.cwd w.temp with
  | error fault => exact Or.inl ⟨_, rfl, rfl⟩
  | ok dir =>
    have hlengths := h.sameLengths dir
    dsimp only
    rw [hlengths.text]
    split_ifs
    · exact Or.inl ⟨_, rfl, rfl⟩
    · exact Or.inl ⟨_, rfl, rfl⟩
    · exact Or.inr ⟨_, _, _, _, _, _, rfl, rfl, rfl, rfl, hlengths⟩

/-- Setting up a section in working directories whose names are as long comes to the same. -/
theorem setup_result {dry : Settings σ} {plan' : SectionPlan} {b₁' : Builder} {v₁ : World σ}
    (h : Interchangeable settings (plan.dockerfile :: dockerfiles) w v)
    (hcontext : settings.context = dry.context) (hdockerfile : plan.dockerfile = plan'.dockerfile)
    (hb : b.workdir = none) (hb' : b'.workdir = none) (hclean : b.clean w = (b₁, w₁, .ok ()))
    (hplace : b₁.workdir = some place) (hclean' : b'.clean v = (b₁', v₁, .ok ()))
    (hplace' : b₁'.workdir = some place') (hlengths : place.SameLengths place') :
    (Builder.setup settings (b₁.bind plan) w₁).2 = (Builder.setup dry (b₁'.bind plan') v₁).2 := by
  have hv : v.files.WellFormed := h.files ▸ h.wellFormed
  have hnew := h.unnamed_right
  have houtside : v.TempOutside settings.context := by
    unfold World.TempOutside
    rw [h.files, h.cwd, h.temp]
    exact h.outside
  rw [hcontext, hdockerfile] at hnew
  rw [hcontext] at houtside
  rw [Builder.setup_eq_foreseen h.wellFormed h.unnamed_left h.outside hb hclean hplace,
    Builder.setup_eq_foreseen hv hnew houtside hb' hclean' hplace', hcontext, hdockerfile, h.files,
    h.cwd, Builder.foreseen_congr hlengths]

end Interchangeable

end ImageBuild
