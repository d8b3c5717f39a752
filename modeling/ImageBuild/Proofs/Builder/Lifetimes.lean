import ImageBuild.Proofs.Builder.Reuse
import ImageBuild.Proofs.Restaging

/-!
# The lifetimes of working directories

`Lived` has the moments in the life of a builder, with the working directories that it got so far,
and every moment of a call is one of them (`Lived.passes`). At each of them the files are those of
the start, but for the one directory that is held (`Accounted`): staging changes nothing else, so
giving the directory up takes away all that was made. Hence no working directory is left behind, and
none is got twice (`workdirs_accounted`).
-/

namespace ImageBuild

variable {σ : Type} {settings : Settings σ} {w₀ : World σ} {got : List Place} {b : Builder}
  {w : World σ}

/-! ## The moments of a builder -/

/-- The moments in the life of a builder that was new in a world, with the working directories that
it got so far. Steps, reclaiming and records leave the files alone (`idle`). -/
inductive Lived (settings : Settings σ) (w₀ : World σ) : List Place → Builder → World σ → Prop
  | new : Lived settings w₀ [] .new w₀
  | clean {got : List Place} {b : Builder} {w : World σ} (h : Lived settings w₀ got b w) :
      Lived settings w₀ (got ++ (b.clean w).1.workdir.toList) (b.clean w).1 (b.clean w).2.1
  | release {got : List Place} {b : Builder} {w : World σ} (h : Lived settings w₀ got b w) :
      Lived settings w₀ got (b.release w).1 (b.release w).2
  | bind {got : List Place} {b : Builder} {w : World σ} (plan : SectionPlan)
      (h : Lived settings w₀ got b w) : Lived settings w₀ got (b.bind plan) w
  | setup {got : List Place} {b : Builder} {w : World σ} (h : Lived settings w₀ got b w) :
      Lived settings w₀ got b (Builder.setup settings b w).1
  | idle {got : List Place} {b : Builder} {w w' : World σ} (h : Lived settings w₀ got b w)
      (hsame : w.SameFiles w') : Lived settings w₀ got b w'

/-- The moments of a call: what there is of the builder and of the world then. -/
inductive Builder.Passes (settings : Settings σ) :
    Builder → World σ → Builder.Call → Builder → World σ → Prop
  | start (b : Builder) (w : World σ) (c : Builder.Call) : Passes settings b w c b w
  | stop (b : Builder) (w : World σ) (c : Builder.Call) :
      Passes settings b w c (b.call settings w c).1 (b.call settings w c).2
  | released (b : Builder) (w : World σ) :
      Passes settings b w .clean (b.release w).1 (b.release w).2
  | stepped (b : Builder) (w : World σ) (plan : SectionPlan) {steps : List ImageStep}
      (hsteps : steps <+: plan.steps) :
      Passes settings b w (.runSteps plan) b
        (Builder.runSteps settings b { plan with steps := steps } w).1
  | cleaning {b b' : Builder} {w w' : World σ} (plan : SectionPlan) (rest : Plan)
      (h : Passes settings b w .clean b' w') : Passes settings b w (.runPlan (plan :: rest)) b' w'
  | staging {b b₁ b' : Builder} {w w₁ w' : World σ} {plan : SectionPlan} (rest : Plan)
      (hclean : b.clean w = (b₁, w₁, .ok ()))
      (h : Passes settings (b₁.bind plan) w₁ .setup b' w') :
      Passes settings b w (.runPlan (plan :: rest)) b' w'
  | running {b b₁ b' : Builder} {w w₁ w₂ w' : World σ} {plan : SectionPlan} (rest : Plan)
      (hclean : b.clean w = (b₁, w₁, .ok ()))
      (hsetup : Builder.setup settings (b₁.bind plan) w₁ = (w₂, .ok ()))
      (h : Passes settings (b₁.bind plan) (w₂.log [Builder.sectionRecord plan]) (.runSteps plan)
        b' w') :
      Passes settings b w (.runPlan (plan :: rest)) b' w'
  | reclaimed {b b₁ : Builder} {w w₁ w₂ w₃ : World σ} {plan : SectionPlan} {image : Option String}
      (rest : Plan) (hclean : b.clean w = (b₁, w₁, .ok ()))
      (hsetup : Builder.setup settings (b₁.bind plan) w₁ = (w₂, .ok ()))
      (hsteps : Builder.runSteps settings (b₁.bind plan) plan
        (w₂.log [Builder.sectionRecord plan]) = (w₃, .ok image)) :
      Passes settings b w (.runPlan (plan :: rest)) (b₁.bind plan)
        (Builder.reclaim settings plan.uuid w₃)
  | later {b b₁ b' : Builder} {w w₁ w' : World σ} {plan : SectionPlan} {rest : Plan}
      (hsection : Builder.runSection settings b plan w = (b₁, w₁, .ok ()))
      (h : Passes settings b₁ w₁ (.runPlan rest) b' w') :
      Passes settings b w (.runPlan (plan :: rest)) b' w'

theorem Lived.of_clean (h : Lived settings w₀ got b w) {b₁ : Builder} {w₁ : World σ}
    {result : Except BuildError Unit} (hclean : b.clean w = (b₁, w₁, result)) :
    Lived settings w₀ (got ++ b₁.workdir.toList) b₁ w₁ := by
  have hcleaned := h.clean
  rwa [hclean] at hcleaned

theorem Lived.of_setup (h : Lived settings w₀ got b w) {w₁ : World σ}
    {result : Except BuildError Unit} (hsetup : Builder.setup settings b w = (w₁, result)) :
    Lived settings w₀ got b w₁ := by
  have hstaged := h.setup
  rwa [hsetup] at hstaged

theorem Lived.exists_append (h : Lived settings w₀ got b w) :
    ∃ more, Lived settings w₀ (got ++ more) b w :=
  ⟨[], by simpa using h⟩

theorem Lived.runSection (h : Lived settings w₀ got b w) (plan : SectionPlan) :
    ∃ more, Lived settings w₀ (got ++ more) (Builder.runSection settings b plan w).1
      (Builder.runSection settings b plan w).2.1 := by
  have houtcome := Builder.sectionOutcome settings b plan w
  generalize Builder.runSection settings b plan w = r at houtcome
  cases houtcome with
  | noWorkdir hclean => exact ⟨_, h.of_clean hclean⟩
  | notStaged hclean hsetup => exact ⟨_, ((h.of_clean hclean).bind plan).of_setup hsetup⟩
  | failed hprepared hsteps hmoved =>
    have hstaged := ((h.of_clean hprepared.clean).bind plan).of_setup hprepared.setup
    exact ⟨_, hstaged.idle hmoved.sameFiles⟩
  | done hprepared hsteps hreclaim hmoved =>
    have hstaged := ((h.of_clean hprepared.clean).bind plan).of_setup hprepared.setup
    exact ⟨_, (hstaged.idle hmoved.sameFiles).release⟩

theorem Lived.runPlan (h : Lived settings w₀ got b w) (plans : Plan) :
    ∃ more, Lived settings w₀ (got ++ more) (b.runPlan settings w plans).1
      (b.runPlan settings w plans).2.1 := by
  induction plans generalizing got b w with
  | nil => exact h.exists_append
  | cons plan rest ih =>
    obtain ⟨made, hsection⟩ := h.runSection plan
    unfold Builder.runPlan
    rcases hresult : Builder.runSection settings b plan w with ⟨b₁, w₁, e | _⟩
    · rw [hresult] at hsection
      exact ⟨made, hsection⟩
    · rw [hresult] at hsection
      obtain ⟨more, hrest⟩ := ih hsection
      exact ⟨made ++ more, by rwa [← List.append_assoc]⟩

theorem Lived.call (h : Lived settings w₀ got b w) (c : Builder.Call) :
    ∃ more, Lived settings w₀ (got ++ more) (b.call settings w c).1 (b.call settings w c).2 := by
  cases c with
  | clean => exact ⟨_, h.clean⟩
  | release => exact h.release.exists_append
  | bind plan => exact (h.bind plan).exists_append
  | setup => exact h.setup.exists_append
  | runSteps plan => exact (h.idle (Builder.sameFiles_runSteps settings b plan w)).exists_append
  | runPlan plans => exact h.runPlan plans

/-- Every moment of a call is one in the life of the builder. -/
theorem Lived.passes {c : Builder.Call} {b' : Builder} {w' : World σ}
    (h : Lived settings w₀ got b w) (hpasses : Builder.Passes settings b w c b' w') :
    ∃ more, Lived settings w₀ (got ++ more) b' w' := by
  induction hpasses generalizing got with
  | start => exact h.exists_append
  | stop b w c => exact h.call c
  | released => exact h.release.exists_append
  | stepped b w plan => exact (h.idle (Builder.sameFiles_runSteps settings b _ w)).exists_append
  | cleaning plan rest _ ih => exact ih h
  | staging rest hclean _ ih =>
    obtain ⟨more, hmore⟩ := ih ((h.of_clean hclean).bind _)
    exact ⟨_ ++ more, by rwa [← List.append_assoc]⟩
  | running rest hclean hsetup _ ih =>
    have hstaged := ((h.of_clean hclean).bind _).of_setup hsetup
    obtain ⟨more, hmore⟩ := ih (hstaged.idle (World.sameFiles_log _ _))
    exact ⟨_ ++ more, by rwa [← List.append_assoc]⟩
  | @reclaimed b b₁ w w₁ w₂ w₃ plan image rest hclean hsetup hsteps =>
    have hstaged := ((h.of_clean hclean).bind plan).of_setup hsetup
    have hrun := Builder.sameFiles_runSteps settings (b₁.bind plan) plan
      (w₂.log [Builder.sectionRecord plan])
    rw [hsteps] at hrun
    exact ⟨_, hstaged.idle (((World.sameFiles_log _ _).trans hrun).trans
      (Builder.sameFiles_reclaim settings plan.uuid w₃))⟩
  | @later b b₁ b' w w₁ w' plan rest hsection _ ih =>
    obtain ⟨made, hmade⟩ := h.runSection plan
    rw [hsection] at hmade
    obtain ⟨more, hmore⟩ := ih hmade
    exact ⟨made ++ more, by rwa [← List.append_assoc]⟩

/-! ## The account of working directories -/

/-- What there is of the working directories that a builder got: the files are those of the start,
but for the directory that is held. -/
structure Accounted (w₀ : World σ) (got : List Place) (b : Builder) (w : World σ) : Prop where
  cwd : w.cwd = w₀.cwd
  temp : w.temp = w₀.temp
  free : b.workdir = none → w.files = w₀.files
  held : ∀ place, b.workdir = some place →
    place ∈ got ∧ w.files.IsStageable place ∧ w.files.erase place = w₀.files
  /-- The names come from one directory and are used up. -/
  named : ∀ place ∈ got, ∃ dir, w₀.files.resolve w₀.cwd w₀.temp = .ok dir ∧
    ∃ m < w.serial, place = dir ++ [Builder.workdirName m]
  new : ∀ place ∈ got, w₀.files.lookup place = none
  distinct : got.Nodup

namespace Accounted

theorem start (w₀ : World σ) (hb : b.workdir = none) : Accounted w₀ [] b w₀ :=
  ⟨rfl, rfl, fun _ => rfl, fun _ hplace => by simp [hb] at hplace, nofun, nofun, .nil⟩

theorem wellFormed (h : Accounted w₀ got b w) (h₀ : w₀.files.WellFormed) :
    w.files.WellFormed := by
  cases hplace : b.workdir with
  | none => exact h.free hplace ▸ h₀
  | some place => exact (h.held place hplace).2.1.wellFormed

/-- Removing the directory that is held takes away all that was made. -/
theorem removeWorkdir (h : Accounted w₀ got b w) {place : Place}
    (hplace : b.workdir = some place) :
    Builder.removeWorkdir w.files place = .ok w₀.files := by
  obtain ⟨-, hstageable, herase⟩ := h.held place hplace
  rw [Builder.removeWorkdir_of_isDirAt hstageable.isDir, herase]

theorem close (h : Accounted w₀ got b w) : (b.close w).files = w₀.files := by
  unfold Builder.close
  cases hplace : b.workdir with
  | none => exact h.free hplace
  | some place =>
    dsimp only
    rw [h.removeWorkdir hplace]

theorem release (h : Accounted w₀ got b w) : Accounted w₀ got (b.release w).1 (b.release w).2 := by
  unfold Builder.release
  cases hplace : b.workdir with
  | none => exact h
  | some place =>
    dsimp only
    rw [h.removeWorkdir hplace]
    exact ⟨h.cwd, h.temp, fun _ => rfl, nofun, h.named, h.new, h.distinct⟩

theorem bind (h : Accounted w₀ got b w) (plan : SectionPlan) : Accounted w₀ got (b.bind plan) w :=
  ⟨h.cwd, h.temp, h.free, h.held, h.named, h.new, h.distinct⟩

theorem idle (h : Accounted w₀ got b w) {w' : World σ} (hsame : w.SameFiles w') :
    Accounted w₀ got b w' := by
  obtain ⟨hfiles, hcwd, htemp, hserial⟩ := hsame
  refine ⟨hcwd ▸ h.cwd, htemp ▸ h.temp, ?_, ?_, ?_, h.new, h.distinct⟩
  · rw [hfiles]
    exact h.free
  · rw [hfiles]
    exact h.held
  · rw [hserial]
    exact h.named

/-- A directory got while none is held is a new one, and it is accounted for. -/
theorem allocate (h : Accounted w₀ got b w) (h₀ : w₀.files.WellFormed) (hb : b.workdir = none)
    {place : Place} {w₁ : World σ} (ha : Builder.allocate w = (w₁, .ok place)) :
    place ∉ got ∧ Accounted w₀ (got ++ [place]) { b with workdir := some place } w₁ := by
  have hfiles := h.free hb
  obtain ⟨hw₁, hnew⟩ := Builder.allocated_of_allocate (hfiles ▸ h₀) ha
  obtain ⟨dir, hdir, -, hname, -, rfl⟩ := Builder.allocate_eq_ok ha
  have hle := Builder.le_freeNumber w.files dir w.serial
  rw [hfiles, h.cwd, h.temp] at hdir
  have hfresh : place ∉ got := by
    -- the names got so far are used up, and the free number is past all of those
    intro hmem
    obtain ⟨dir', hdir', m, hm, hname'⟩ := h.named place hmem
    obtain rfl := Except.ok.inj (hdir.symm.trans hdir')
    have hnumber := Builder.workdirName_injective (by simpa using hname.symm.trans hname')
    omega
  refine ⟨hfresh, h.cwd, h.temp, nofun, ?_, ?_, ?_, ?_⟩
  · rintro place' ⟨⟩
    refine ⟨by simp, ⟨hw₁, hnew.isDir, fun link => ?_⟩, ?_⟩
    · rw [hnew.empty _ (by simp)]
      simp
    · dsimp only
      rw [hfiles, h₀.erase_insert_of_free (hfiles ▸ hnew.free)]
  · intro place' hmem
    rcases List.mem_append.1 hmem with hmem | hmem
    · obtain ⟨dir', hdir', m, hm, hname'⟩ := h.named place' hmem
      exact ⟨dir', hdir', m, by dsimp only; omega, hname'⟩
    · obtain rfl := List.mem_singleton.1 hmem
      exact ⟨dir, hdir, _, Nat.lt_succ_self _, hname⟩
  · intro place' hmem
    rcases List.mem_append.1 hmem with hmem | hmem
    · exact h.new place' hmem
    · obtain rfl := List.mem_singleton.1 hmem
      exact hfiles ▸ hnew.free
  · exact List.nodup_append.2 ⟨h.distinct, List.nodup_singleton place,
      fun a ha b hb hab => hfresh (by rwa [← List.mem_singleton.1 hb, ← hab])⟩

theorem clean (h : Accounted w₀ got b w) (h₀ : w₀.files.WellFormed) :
    Accounted w₀ (got ++ (b.clean w).1.workdir.toList) (b.clean w).1 (b.clean w).2.1 := by
  have hnone := Builder.workdir_release b w
  rcases hclean : b.clean w with ⟨b₁, w₁, e | _⟩
  · have hrelease := Builder.release_of_clean_error hclean
    have hreleased := h.release
    rw [hrelease] at hnone hreleased
    dsimp only at hnone ⊢
    rw [hnone, Option.toList_none, List.append_nil]
    exact hreleased
  · obtain ⟨place, hplace, hallocate⟩ := Builder.allocate_of_clean hclean
    have hmade := (h.release.allocate h₀ hnone hallocate).2
    have hworkdir : b₁ = { (b.release w).1 with workdir := some place } := by
      unfold Builder.clean at hclean
      dsimp only at hclean
      rw [hallocate] at hclean
      exact (Prod.mk.inj hclean).1.symm
    dsimp only
    rw [hplace, hworkdir]
    exact hmade

/-- Setting up leaves the files alone or stages into the directory that is held. -/
theorem setup (h : Accounted w₀ got b w) (h₀ : w₀.files.WellFormed) (settings : Settings σ) :
    Accounted w₀ got b (Builder.setup settings b w).1 := by
  unfold Builder.setup
  split
  · exact h
  · rename_i plan _
    split
    · exact h
    · rename_i c hcheck
      split
      · exact h
      · rename_i place hplace
        obtain ⟨hmem, hstageable, herase⟩ := h.held place hplace
        have hroot := (Sandbox.isInside_of_check (h.wellFormed h₀) hcheck).root_resolved
        obtain ⟨hstageable', hstaged⟩ := hstageable.stage hroot
        have hafter : Accounted w₀ got b
            (({ w with files := (w.files.stage c place).2.1 } : World σ).log
              (w.files.stage c place).1) := by
          refine ⟨h.cwd, h.temp, fun hb => ?_, fun place' hplace' => ?_, h.named, h.new,
            h.distinct⟩
          · rw [hplace] at hb
            cases hb
          · obtain rfl : place = place' := Option.some.inj (hplace.symm.trans hplace')
            exact ⟨hmem, hstageable', hstaged.trans herase⟩
        dsimp only
        split
        · exact hafter
        · exact hafter

/-- Nothing is left of a directory that is not held. -/
theorem gone (h : Accounted w₀ got b w) (h₀ : w₀.files.WellFormed) {place : Place}
    (hmem : place ∈ got) (hb : b.workdir ≠ some place) {q : Place} (hq : place <+: q) :
    w.files.lookup q = none := by
  have hnothing := h₀.lookup_eq_none_of_prefix (h.new place hmem) hq
  cases hheld : b.workdir with
  | none => rwa [h.free hheld]
  | some place' =>
    obtain ⟨hmem', -, herase⟩ := h.held place' hheld
    rw [← herase, FileSystem.lookup_erase] at hnothing
    split_ifs at hnothing with hup
    · -- both places have one name below the same directory
      obtain ⟨dir, hdir, m, -, rfl⟩ := h.named place hmem
      obtain ⟨dir', hdir', m', -, rfl⟩ := h.named place' hmem'
      obtain rfl := Except.ok.inj (hdir.symm.trans hdir')
      have hlen : (dir ++ [Builder.workdirName m]).length =
          (dir ++ [Builder.workdirName m']).length := by simp
      have hsame := (List.prefix_of_prefix_length_le hq hup.2 hlen.le).eq_of_length hlen
      rw [hsame] at hb
      exact absurd hheld hb
    · exact hnothing

end Accounted

theorem Lived.accounted (h : Lived settings w₀ got b w) (h₀ : w₀.files.WellFormed) :
    Accounted w₀ got b w := by
  induction h with
  | new => exact .start w₀ rfl
  | clean _ ih => exact ih.clean h₀
  | release _ ih => exact ih.release
  | bind plan _ ih => exact ih.bind plan
  | setup _ ih => exact ih.setup h₀ settings
  | idle _ hsame ih => exact ih.idle hsame

/-! ## Working directories do not leak -/

/-- The working directories that a builder got: at most the one that it holds is there. -/
structure Tidy (w₀ : World σ) (got : List Place) (b : Builder) (w : World σ) : Prop where
  distinct : got.Nodup
  /-- Nothing stood at their places before. -/
  new : ∀ place ∈ got, w₀.files.lookup place = none
  held : ∀ place, b.workdir = some place → place ∈ got ∧ w.files.isDirAt place = true
  /-- Nothing is left of the others. -/
  gone : ∀ place ∈ got, b.workdir ≠ some place → ∀ q, place <+: q → w.files.lookup q = none
  /-- The end of the builder leaves the files of the start. -/
  closed : (b.close w).files = w₀.files

theorem Lived.tidy (h : Lived settings w₀ got b w) (h₀ : w₀.files.WellFormed) :
    Tidy w₀ got b w := by
  have haccount := h.accounted h₀
  refine ⟨haccount.distinct, haccount.new, fun place hplace => ?_,
    fun place hmem hb q hq => haccount.gone h₀ hmem hb hq, haccount.close⟩
  obtain ⟨hmem, hstageable, -⟩ := haccount.held place hplace
  exact ⟨hmem, hstageable.isDir⟩

/-- What a run that fails holds: nothing if its last section got no working directory, and else the
one that this section got. -/
inductive HeldByFailing (settings : Settings σ) (b : Builder) (w : World σ) (plans : Plan)
    (b' : Builder) (w' : World σ) (e : BuildError) : Prop
  | unavailable {before after : Plan} {plan : SectionPlan} {b₁ : Builder} {w₁ : World σ}
      (hplans : plans = before ++ plan :: after)
      (hbefore : b.runPlan settings w before = (b₁, w₁, .ok ()))
      (hclean : b₁.clean w₁ = (b', w', .error e)) (hnone : b'.workdir = none)
  | held {before after : Plan} {plan : SectionPlan} {b₁ b₂ : Builder} {w₁ w₂ : World σ}
      {place : Place} (hplans : plans = before ++ plan :: after)
      (hbefore : b.runPlan settings w before = (b₁, w₁, .ok ()))
      (hclean : b₁.clean w₁ = (b₂, w₂, .ok ())) (hgot : b₂.workdir = some place)
      (hfailed : Builder.runSection settings b₁ plan w₁ = (b', w', .error e))
      (hheld : b'.workdir = some place)

theorem heldByFailing_of_runPlan {plans : Plan} {b' : Builder} {w' : World σ} {e : BuildError}
    (h : b.runPlan settings w plans = (b', w', .error e)) :
    HeldByFailing settings b w plans b' w' e := by
  obtain ⟨before, plan, after, b₁, w₁, hplans, hbefore, hfailed⟩ :=
    Builder.exists_of_runPlan_error h
  have houtcome := Builder.sectionOutcome settings b₁ plan w₁
  rw [hfailed] at houtcome
  cases houtcome with
  | noWorkdir hclean =>
    have hnone := Builder.workdir_release b₁ w₁
    rw [Builder.release_of_clean_error hclean] at hnone
    exact .unavailable hplans hbefore hclean hnone
  | notStaged hclean hsetup =>
    obtain ⟨place, hplace, -⟩ := Builder.allocate_of_clean hclean
    exact .held hplans hbefore hclean hplace hfailed hplace
  | failed hprepared hsteps hmoved =>
    exact .held hplans hbefore hprepared.clean hprepared.workdir hfailed hprepared.workdir

/-- A new working directory is empty and none that the builder had before. -/
theorem Lived.exists_of_clean (h : Lived settings w₀ got b w) (h₀ : w₀.files.WellFormed)
    {b' : Builder} {w' : World σ} (hclean : b.clean w = (b', w', .ok ())) :
    ∃ place, b'.workdir = some place ∧ place ∉ got ∧ w'.files.isDirAt place = true ∧
      w'.files.below place = [] := by
  obtain ⟨place, hplace, hallocate⟩ := Builder.allocate_of_clean hclean
  have haccount := (h.accounted h₀).release
  obtain ⟨hw', hnew⟩ := Builder.allocated_of_allocate (haccount.wellFormed h₀) hallocate
  have hfresh := (haccount.allocate h₀ (Builder.workdir_release b w) hallocate).1
  exact ⟨place, hplace, hfresh, hnew.isDir, hw'.below_eq_nil_iff.2 hnew.empty⟩

/-- At every moment in the life of a builder at most one of its working directories is there, which
it holds; one that it gets is new and empty, a run of sections that ends well holds none, and one
that fails holds that of the section that failed. -/
theorem workdirs_accounted (settings : Settings σ) (w₀ : World σ) (h₀ : w₀.files.WellFormed)
    (got : List Place) (b : Builder) (w : World σ) (h : Lived settings w₀ got b w) :
    Tidy w₀ got b w ∧
    (∀ c b' w', Builder.Passes settings b w c b' w' →
      ∃ more, Lived settings w₀ (got ++ more) b' w' ∧ Tidy w₀ (got ++ more) b' w') ∧
    (∀ b' w', b.clean w = (b', w', .ok ()) → ∃ place, b'.workdir = some place ∧ place ∉ got ∧
      w'.files.isDirAt place = true ∧ w'.files.below place = []) ∧
    (∀ plans b' w', plans ≠ [] → b.runPlan settings w plans = (b', w', .ok ()) →
      b'.workdir = none) ∧
    ∀ plans b' w' e, b.runPlan settings w plans = (b', w', .error e) →
      HeldByFailing settings b w plans b' w' e := by
  refine ⟨h.tidy h₀, fun c b' w' hpasses => ?_, fun b' w' hclean => h.exists_of_clean h₀ hclean,
    fun plans b' w' hne => Builder.workdir_of_runPlan hne,
    fun plans b' w' e => heldByFailing_of_runPlan⟩
  obtain ⟨more, hmore⟩ := h.passes hpasses
  exact ⟨more, hmore, hmore.tidy h₀⟩

theorem workdirs_accounted_twice : ∃ b w,
    Lived Settings.obliging .linked
        [["tmp", "build-runner-000001"], ["tmp", "build-runner-000002"]] b w ∧
      b.workdir = some ["tmp", "build-runner-000002"] ∧
      Tidy .linked [["tmp", "build-runner-000001"], ["tmp", "build-runner-000002"]] b w := by
  let b₁ := (Builder.new.clean World.linked).1.bind (.building "Dockerfile")
  let w₁ := (Builder.setup .obliging b₁ (Builder.new.clean World.linked).2.1).1
  have hfirst : ([] ++ (Builder.new.clean World.linked).1.workdir.toList) ++
      (b₁.clean w₁).1.workdir.toList =
        [["tmp", "build-runner-000001"], ["tmp", "build-runner-000002"]] := by
    decide +kernel
  have hlived : Lived Settings.obliging .linked _ (b₁.clean w₁).1 (b₁.clean w₁).2.1 :=
    .clean (.setup (.bind (.building "Dockerfile") (.clean .new)))
  rw [hfirst] at hlived
  exact ⟨_, _, hlived, by decide +kernel,
    (workdirs_accounted .obliging .linked (by decide +kernel) _ _ _ hlived).1⟩

end ImageBuild
