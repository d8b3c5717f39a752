import ImageBuild.Proofs.Builder.Sections
import ImageBuild.Proofs.Staging

/-!
# What a section prepares

Preparing a section checks its dockerfile and fills a new, empty working directory
(`setup_after_clean`). What the backend then finds in the directory that it is given is what was
staged there (`holdsStaged`).
-/

namespace ImageBuild

variable {σ : Type} {settings : Settings σ} {b b₁ : Builder} {w w' w₁ w₂ : World σ}
  {plan : SectionPlan} {place : Place}

namespace Builder

/-- Setting up a section in a new working directory: either the dockerfile is refused and nothing is
done, or staging fills the directory, as far as it comes. -/
theorem setup_after_clean (settings : Settings σ) (plan : SectionPlan) (hw : w.files.WellFormed)
    (hclean : b.clean w = (b₁, w₁, .ok ())) (hplace : b₁.workdir = some place) :
    (∃ fault, Sandbox.check w₁.files w₁.cwd plan.dockerfile settings.context = .error fault ∧
        setup settings (b₁.bind plan) w₁ = (w₁, .error (.sandbox fault))) ∨
      ∃ c result,
        Sandbox.check w₁.files w₁.cwd plan.dockerfile settings.context = .ok c ∧
        c.IsInside w₁.files w₁.cwd settings.context ∧
        FileSystem.Staged w₁.files c place (setup settings (b₁.bind plan) w₁).1.files result ∧
        (setup settings (b₁.bind plan) w₁).2 = result.mapError .staging := by
  obtain ⟨hwf, hnew⟩ := allocated_of_clean hw hclean hplace
  unfold setup bind
  dsimp only
  rw [hplace]
  rcases hcheck : (TrustedFile.ofPath plan.dockerfile settings.context).verdict w₁.files w₁.cwd with
    fault | c
  · exact Or.inl ⟨fault, hcheck, rfl⟩
  · have hinside := Sandbox.isInside_of_check hwf hcheck
    have hstaged := hwf.stage hinside.root_resolved hinside.isFile hnew.isDir hnew.empty
    refine Or.inr ⟨c, (w₁.files.stage c place).2.2, hcheck, hinside, ?_⟩
    dsimp only
    split
    · rename_i hresult
      rw [hresult] at hstaged ⊢
      exact ⟨hstaged, rfl⟩
    · rename_i hresult
      rw [hresult] at hstaged ⊢
      exact ⟨hstaged, rfl⟩

end Builder

/-- What is staged when a section is prepared. -/
theorem Prepared.staged (h : Prepared settings b plan w b₁ w₁ place w₂) (hw : w.files.WellFormed) :
    ∃ c, Sandbox.check w₁.files w₁.cwd plan.dockerfile settings.context = .ok c ∧
      c.IsInside w₁.files w₁.cwd settings.context ∧
      FileSystem.Staged w₁.files c place w₂.files (.ok ()) := by
  rcases Builder.setup_after_clean settings plan hw h.clean h.workdir with ⟨fault, -, hsetup⟩ |
    ⟨c, result, hcheck, hinside, hstaged, hresult⟩
  · rw [h.setup] at hsetup
    cases (Prod.mk.inj hsetup).2
  · rw [h.setup] at hstaged hresult
    cases result with
    | error fault => cases hresult
    | ok _ => exact ⟨c, hcheck, hinside, hstaged⟩

/-! ## The directory that is handed out -/

/-- A directory holds what is staged from a context, each path once and nothing else. -/
structure BuildDir.HoldsStaged (dir : BuildDir) (fs : FileSystem) (c : Contained) : Prop where
  distinct : (dir.tree.map (·.1)).Nodup
  mem_iff : ∀ path node, (path, node) ∈ dir.tree ↔ path ≠ [] ∧ c.stagedAt? fs path = some node

theorem BuildDir.tree_eq_below (dir : BuildDir)
    (hresolve : dir.files.resolve dir.cwd dir.path = .ok place)
    (hdir : dir.files.isDirAt place = true) : dir.tree = dir.files.below place := by
  unfold tree
  rw [hresolve]
  exact if_pos hdir

/-- The working directory of a prepared section is where its text leads. -/
theorem Prepared.resolve_workdir (h : Prepared settings b plan w b₁ w₁ place w₂)
    (hw : w.files.WellFormed) : place ≠ [] ∧ w₂.files.isDirAt place = true ∧
      w₂.files.Resolved place ∧ w₂.files.resolve w₂.cwd place.text = .ok place := by
  obtain ⟨c, -, -, hstaged⟩ := h.staged hw
  obtain ⟨hwf, hnew⟩ := Builder.allocated_of_clean hw h.clean h.workdir
  have hne : place ≠ [] := by
    rintro rfl
    have hfree := hnew.free
    rw [FileSystem.lookup_root] at hfree
    cases hfree
  have hdir : w₂.files.isDirAt place = true := by
    obtain ⟨mode, hmode⟩ := FileSystem.isDirAt_iff.1 hnew.isDir
    exact FileSystem.isDirAt_iff.2 ⟨mode, (hstaged.outside place (by simp)).trans hmode⟩
  have hresolved := hstaged.wellFormed.resolved (FileSystem.stands_of_isDirAt hdir)
  exact ⟨hne, hdir, hresolved,
    hresolved.resolve_text hne w₂.cwd (hstaged.length_le rfl) hnew.length_lt⟩

/-- The directory that a prepared section hands out holds what was staged. -/
theorem Prepared.holdsStaged (h : Prepared settings b plan w b₁ w₁ place w₂)
    (hw : w.files.WellFormed) {c : Contained}
    (hstaged : FileSystem.Staged w₁.files c place w₂.files (.ok ())) :
    BuildDir.HoldsStaged ⟨w₂.files, w₂.cwd, place.text⟩ w₁.files c := by
  obtain ⟨-, hdir, -, hresolve⟩ := h.resolve_workdir hw
  have htree := BuildDir.tree_eq_below ⟨w₂.files, w₂.cwd, place.text⟩ hresolve hdir
  refine ⟨?_, ?_⟩
  · rw [htree]
    exact hstaged.wellFormed.nodup_below place
  · intro path node
    rw [htree, hstaged.wellFormed.mem_below]
    refine and_congr_right fun hpath => ?_
    rw [hstaged.inside rfl path hpath]

end ImageBuild
