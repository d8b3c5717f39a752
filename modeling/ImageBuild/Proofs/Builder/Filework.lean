import ImageBuild.Proofs.Builder.Workdir

/-!
# Work on files

Getting and giving up a working directory and staging the files of a section look at the files only:
in any two worlds with the same files they come to the same, whatever the services, the output and
the records there are (`World.OnFiles`). So two worlds that are alike in some way stay so, as long as
that way is not affected by the same work in both (`World.KeptByWork`).
-/

namespace ImageBuild

variable {σ α β : Type}

namespace World

/-- A world after work on its files: other files, more names that are used up, and more records. -/
def worked (w : World σ) (files : FileSystem) (serial : Nat) (records : List LogRecord) : World σ :=
  { w with files := files, serial := serial, records := w.records ++ records }

theorem worked_self (w : World σ) : w.worked w.files w.serial [] = w := by
  simp [worked]

theorem worked_worked (w : World σ) (files files' : FileSystem) (serial serial' : Nat)
    (records records' : List LogRecord) :
    (w.worked files serial records).worked files' serial' records' =
      w.worked files' serial' (records ++ records') := by
  simp [worked, List.append_assoc]

/-- Some work looks at the files only: it leaves worlds with the same files in the same way. -/
def OnFiles (work : World σ → World σ × α) : Prop :=
  ∀ w v : World σ, w.SameFiles v → ∃ files serial records result,
    work w = (w.worked files serial records, result) ∧
      work v = (v.worked files serial records, result)

theorem SameFiles.symm {w v : World σ} (h : w.SameFiles v) : v.SameFiles w :=
  ⟨h.files.symm, h.cwd.symm, h.temp.symm, h.serial.symm⟩

theorem SameFiles.worked {w v : World σ} (h : w.SameFiles v) (files : FileSystem) (serial : Nat)
    (records : List LogRecord) :
    (w.worked files serial records).SameFiles (v.worked files serial records) :=
  ⟨rfl, h.cwd, h.temp, rfl⟩

/-- Worlds that are alike in some way, with the same result. -/
inductive SameResult (alike : World σ → World σ → Prop) : World σ × α → World σ × α → Prop
  | intro {w v : World σ} (h : alike w v) (a : α) : SameResult alike (w, a) (v, a)

theorem SameResult.exists {alike : World σ → World σ → Prop} {r r' : World σ × α}
    (h : SameResult alike r r') : ∃ w v a, r = (w, a) ∧ r' = (v, a) ∧ alike w v := by
  cases h with
  | intro h a => exact ⟨_, _, a, rfl, rfl, h⟩

/-- Worlds that are alike have the same files, and are alike after the same work on their files. -/
structure KeptByWork (alike : World σ → World σ → Prop) : Prop where
  sameFiles : ∀ {w v}, alike w v → w.SameFiles v
  worked : ∀ {w v}, alike w v → ∀ files serial records,
    alike (w.worked files serial records) (v.worked files serial records)

theorem keptByWork_sameFiles : KeptByWork (SameFiles : World σ → World σ → Prop) :=
  ⟨id, SameFiles.worked⟩

theorem OnFiles.sameResult {work : World σ → World σ × α} (hwork : OnFiles work)
    {alike : World σ → World σ → Prop} (hkept : KeptByWork alike) {w v : World σ} (h : alike w v) :
    SameResult alike (work w) (work v) := by
  obtain ⟨files, serial, records, result, hw, hv⟩ := hwork w v (hkept.sameFiles h)
  rw [hw, hv]
  exact .intro (hkept.worked h files serial records) result

theorem onFiles_pure (a : α) : OnFiles fun w : World σ => (w, a) := by
  intro w v h
  refine ⟨w.files, w.serial, [], a, by rw [worked_self], ?_⟩
  rw [← h.files, ← h.serial, worked_self]

theorem OnFiles.bind {work : World σ → World σ × α} {next : α → World σ → World σ × β}
    (h : OnFiles work) (hnext : ∀ a, OnFiles (next a)) :
    OnFiles fun w => next (work w).2 (work w).1 := by
  intro w v hv
  obtain ⟨files, serial, records, a, hw, hv'⟩ := h w v hv
  obtain ⟨files', serial', records', b, hnw, hnv⟩ :=
    hnext a _ _ (hv.worked files serial records)
  refine ⟨files', serial', records ++ records', b, ?_, ?_⟩
  · dsimp only
    rw [hw, hnw, worked_worked]
  · dsimp only
    rw [hv', hnv, worked_worked]

end World

open World

namespace Builder

theorem onFiles_release (b : Builder) :
    OnFiles fun w : World σ => ((b.release w).2, (b.release w).1) := by
  intro w v h
  unfold release
  cases b.workdir with
  | none => exact onFiles_pure b w v h
  | some place =>
    dsimp only
    rw [h.files]
    cases removeWorkdir w.files place with
    | ok files =>
      refine ⟨files, w.serial, [], { b with workdir := none }, ?_, ?_⟩
      · simp [worked]
      · simp [worked, ← h.serial]
    | error fault =>
      refine ⟨w.files, w.serial, [.warn .builder "failed to remove workdir" []],
        { b with workdir := none }, rfl, ?_⟩
      simp [worked, log, ← h.serial, ← h.files]

theorem onFiles_allocate : OnFiles (allocate : World σ → World σ × Except FileFault Place) := by
  intro w v h
  unfold allocate
  rw [h.files, h.cwd, h.temp, h.serial]
  cases w.files.resolve w.cwd w.temp with
  | error fault => exact onFiles_pure (.error fault : Except FileFault Place) w v h
  | ok dir =>
    dsimp only
    split_ifs
    · exact onFiles_pure (.error .notADirectory : Except FileFault Place) w v h
    · exact onFiles_pure (.error .nameTooLong : Except FileFault Place) w v h
    · let number := freeNumber w.files dir w.serial
      let place := dir ++ [workdirName number]
      refine ⟨w.files.insert place (.dir workdirMode), number + 1, [], .ok place, ?_, ?_⟩
      · simp [worked, number, place]
      · simp [worked, number, place, h.cwd, h.temp]

/-- A builder after it tried to get a working directory, and the result. -/
def settled (b : Builder) (made : Except FileFault Place) : Builder × Except BuildError Unit :=
  match made with
  | .error fault => (b, .error (.workdir (.unavailable fault)))
  | .ok place => ({ b with workdir := some place }, .ok ())

theorem clean_eq_settled (b : Builder) (w : World σ) :
    ((b.clean w).2.1, (b.clean w).1, (b.clean w).2.2) =
      ((allocate (b.release w).2).1, (b.release w).1.settled (allocate (b.release w).2).2) := by
  unfold clean
  dsimp only
  rcases allocate (b.release w).2 with ⟨w', fault | place⟩ <;> rfl

theorem onFiles_clean (b : Builder) :
    OnFiles fun w : World σ => ((b.clean w).2.1, (b.clean w).1, (b.clean w).2.2) := by
  simp only [clean_eq_settled]
  exact (onFiles_release b).bind fun b =>
    onFiles_allocate.bind fun made => onFiles_pure (b.settled made)

/-- What is staged does not depend on the backend, on version control and on pushing. -/
theorem onFiles_setup (settings : Settings σ) (b : Builder) : OnFiles (setup settings b) := by
  intro w v h
  unfold setup
  cases b.next with
  | none => exact onFiles_pure (.error .noSection : Except BuildError Unit) w v h
  | some plan =>
    dsimp only
    rw [h.files, h.cwd]
    cases (TrustedFile.ofPath plan.dockerfile settings.context).verdict w.files w.cwd with
    | error fault => exact onFiles_pure (.error (.sandbox fault) : Except BuildError Unit) w v h
    | ok contained =>
      cases b.workdir with
      | none =>
        exact onFiles_pure (.error (.workdir .notAllocated) : Except BuildError Unit) w v h
      | some workdir =>
        dsimp only
        rcases hstage : w.files.stage contained workdir with ⟨records, files, fault | _⟩
        · refine ⟨files, w.serial, records, .error (.staging fault), rfl, ?_⟩
          simp [worked, log, h.serial, h.cwd]
        · refine ⟨files, w.serial, records, .ok (), rfl, ?_⟩
          simp [worked, log, h.serial, h.cwd]

/-! ## Builders that hold the same -/

theorem release_congr {b b' : Builder} (h : b.workdir = b'.workdir) (w : World σ) :
    (b.release w).2 = (b'.release w).2 := by
  unfold release
  rw [h]
  split <;> rfl

theorem clean_congr {b b' : Builder} (h : b.workdir = b'.workdir) (w : World σ) :
    (b.clean w).1.workdir = (b'.clean w).1.workdir ∧ (b.clean w).2 = (b'.clean w).2 := by
  unfold clean
  dsimp only
  rw [release_congr h]
  rcases allocate (b'.release w).2 with ⟨w', fault | place⟩
  · exact ⟨(workdir_release b w).trans (workdir_release b' w).symm, rfl⟩
  · exact ⟨rfl, rfl⟩

/-- Setting up looks at the context, at the working directory and at the dockerfile. -/
theorem setup_congr {settings settings' : Settings σ} {b b' : Builder}
    (hcontext : settings.context = settings'.context) (hworkdir : b.workdir = b'.workdir)
    (hnext : b.next.map (·.dockerfile) = b'.next.map (·.dockerfile)) (w : World σ) :
    setup settings b w = setup settings' b' w := by
  obtain ⟨workdir, next⟩ := b
  obtain ⟨workdir', next'⟩ := b'
  obtain rfl : workdir = workdir' := hworkdir
  unfold setup
  rw [hcontext]
  cases next with
  | none =>
    cases next' with
    | none => rfl
    | some plan' => cases hnext
  | some plan =>
    cases next' with
    | none => cases hnext
    | some plan' =>
      have hdockerfile : plan.dockerfile = plan'.dockerfile := Option.some.inj hnext
      dsimp only
      rw [hdockerfile]

end Builder

/-- Two runs of builders come to the same: they hold the same working directory, the worlds are alike
and the result is the same. -/
inductive SameOutcome (alike : World σ → World σ → Prop) :
    Builder × World σ × Except BuildError Unit → Builder × World σ × Except BuildError Unit → Prop
  | intro {b b' : Builder} {w v : World σ} (hworkdir : b.workdir = b'.workdir) (h : alike w v)
      (result : Except BuildError Unit) : SameOutcome alike (b, w, result) (b', v, result)

theorem SameOutcome.exists {alike : World σ → World σ → Prop}
    {r r' : Builder × World σ × Except BuildError Unit} (h : SameOutcome alike r r') :
    ∃ b b' w v result, r = (b, w, result) ∧ r' = (b', v, result) ∧ b.workdir = b'.workdir ∧
      alike w v := by
  cases h with
  | intro hworkdir h result => exact ⟨_, _, _, _, result, rfl, rfl, hworkdir, h⟩

namespace Builder

variable {alike : World σ → World σ → Prop} {w v : World σ} {b b' : Builder}

theorem release_alike (hkept : KeptByWork alike) (hb : b.workdir = b'.workdir) (h : alike w v) :
    alike (b.release w).2 (b'.release v).2 := by
  obtain ⟨w₁, v₁, b₁, hw, hv, h₁⟩ := ((onFiles_release b').sameResult hkept h).exists
  rw [release_congr hb, (Prod.mk.inj hw).1, (Prod.mk.inj hv).1]
  exact h₁

theorem clean_alike (hkept : KeptByWork alike) (hb : b.workdir = b'.workdir) (h : alike w v) :
    SameOutcome alike (b.clean w) (b'.clean v) := by
  obtain ⟨hworkdir, hworld⟩ := clean_congr hb w
  obtain ⟨w₁, v₁, r, hw₁, hv₁, h₁⟩ := ((onFiles_clean b').sameResult hkept h).exists
  rcases hw : b.clean w with ⟨b₁, w₂, made⟩
  rcases hv : b'.clean v with ⟨b₁', v₂, made'⟩
  rw [hw] at hworkdir hworld
  rw [← hworld] at hw₁
  rw [hv] at hv₁
  obtain ⟨rfl, hr⟩ := Prod.mk.inj hw₁
  obtain ⟨rfl, hr'⟩ := Prod.mk.inj hv₁
  obtain ⟨hbuilder, rfl⟩ := Prod.mk.inj (hr.trans hr'.symm)
  exact .intro (hworkdir.trans (congrArg (·.workdir) hbuilder)) h₁ made

theorem setup_alike (hkept : KeptByWork alike) {settings settings' : Settings σ}
    (hcontext : settings.context = settings'.context) (hworkdir : b.workdir = b'.workdir)
    {plan plan' : SectionPlan} (hdockerfile : plan.dockerfile = plan'.dockerfile) (h : alike w v) :
    SameResult alike (setup settings (b.bind plan) w) (setup settings' (b'.bind plan') v) := by
  have hbound : (b.bind plan).workdir = (b'.bind plan').workdir := hworkdir
  have hnext : (b.bind plan).next.map (·.dockerfile) = (b'.bind plan').next.map (·.dockerfile) :=
    congrArg some hdockerfile
  rw [setup_congr hcontext hbound hnext]
  exact (onFiles_setup settings' (b'.bind plan')).sameResult hkept h

end Builder

end ImageBuild
