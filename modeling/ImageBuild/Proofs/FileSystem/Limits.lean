import ImageBuild.Proofs.FileSystem.Walks

/-!
# Limits of walks

What a walk runs into makes it fail and changes nothing else: it can run out of links
(`walk_mono`), and into a place with a text that is too long (`walk_limit_cases`). A place that was
reached is not too long to be reached by its names (`fits_of_walk`, `Resolved.advance_of_fits`).
-/

namespace ImageBuild

namespace FileSystem

variable {fs : FileSystem} {limit : Option Nat} {links : Nat} {p q : Place} {steps : List Step}
  {n : Name}

/-! ## Links that are left -/

/-- With fewer links to follow a walk ends as with more, unless it runs out of them. -/
theorem walk_mono {left : Nat} (hle : left ≤ links) (p : Place) (steps : List Step) :
    fs.walk limit left p steps = fs.walk limit links p steps ∨
      fs.walk limit left p steps = .failed .tooManyLinks := by
  induction left generalizing links p steps with
  | zero =>
    rw [walk_eq_walkOn, walk_eq_walkOn fs limit links]
    cases fs.advance limit p steps with
    | link => exact Or.inr rfl
    | _ => exact Or.inl rfl
  | succ left ih =>
    obtain ⟨links, rfl⟩ : ∃ more, links = more + 1 := ⟨links - 1, by omega⟩
    rw [walk_eq_walkOn, walk_eq_walkOn fs limit (links + 1)]
    cases fs.advance limit p steps with
    | link dir target rest =>
      dsimp only [walkOn]
      by_cases htarget : target = ""
      · rw [if_pos htarget, if_pos htarget]
        exact Or.inl rfl
      · rw [if_neg htarget, if_neg htarget]
        exact ih (by omega) _ _
    | _ => exact Or.inl rfl

/-! ## Limits on the texts of places -/

/-- Steps can be taken to a place by its names as far as their length goes. -/
structure Fits (limit : Option Nat) (p : Place) : Prop where
  names : ∀ n ∈ p, n.utf8ByteSize ≤ longestName
  text : ∀ bound, limit = some bound → ∀ r : Place, r <+: p → r ≠ [] → r.text.utf8ByteSize < bound

theorem Fits.nil (limit : Option Nat) : Fits limit [] :=
  ⟨nofun, fun _ _ _ hr hne => absurd (List.prefix_nil.1 hr) hne⟩

theorem Fits.of_prefix (h : Fits limit p) (hq : q <+: p) : Fits limit q :=
  ⟨fun n hn => h.names n (hq.subset hn),
    fun bound hbound r hr => h.text bound hbound r (hr.trans hq)⟩

theorem Fits.concat (h : Fits limit p) (hover : overruns limit p (.name n) = false)
    (hlong : n.utf8ByteSize ≤ longestName) : Fits limit (p ++ [n]) := by
  refine ⟨fun m hm => ?_, fun bound hbound r hr hne => ?_⟩
  · rcases List.mem_append.1 hm with hm | hm
    · exact h.names m hm
    · rw [List.mem_singleton.1 hm]
      exact hlong
  · rcases List.prefix_concat_iff.1 hr with rfl | hr
    · subst hbound
      simpa [overruns] using hover
    · exact h.text bound hbound r hr hne

/-- A place that steps lead to, or in which they meet a link, is not too long. -/
def AdvanceFits (limit : Option Nat) : Advance → Prop
  | .arrived q => Fits limit q
  | .link dir _ _ => Fits limit dir
  | _ => True

theorem fits_of_advance (hp : Fits limit p) : AdvanceFits limit (fs.advance limit p steps) := by
  induction steps generalizing p with
  | nil => exact hp
  | cons step steps ih =>
    by_cases hd : fs.isDirAt p = true
    · cases step with
      | here =>
        rw [advance_here limit hd]
        exact ih hp
      | up =>
        rw [advance_up limit hd]
        exact ih (hp.of_prefix p.dropLast_prefix)
      | name n =>
        obtain ⟨mode, hm⟩ := isDirAt_iff.1 hd
        rw [advance.eq_def]
        dsimp only
        by_cases hover : overruns limit p (.name n) = true
        · rw [if_pos hover]
          trivial
        · rw [if_neg hover, hm]
          dsimp only
          by_cases hlong : longestName < n.utf8ByteSize
          · rw [if_pos hlong]
            trivial
          · rw [if_neg hlong]
            cases fs.lookup (p ++ [n]) with
            | none =>
              dsimp only
              split_ifs <;> trivial
            | some node =>
              cases node with
              | link target => exact hp
              | _ => exact ih (hp.concat (by simpa using hover) (by omega))
    · obtain ⟨fault, ha⟩ := advance_of_not_isDirAt limit (by simpa using hd) step steps
      rw [ha]
      trivial

theorem fits_of_walk (hp : Fits limit p) (h : fs.walk limit links p steps = .found q) :
    Fits limit q := by
  induction links using Nat.strongRecOn generalizing p steps with
  | ind links ih =>
    rw [walk_eq_walkOn] at h
    have hfits : AdvanceFits limit (fs.advance limit p steps) := fits_of_advance hp
    cases ha : fs.advance limit p steps with
    | arrived place =>
      rw [ha] at h hfits
      exact Destination.found.inj h ▸ hfits
    | missing place =>
      rw [ha] at h
      cases h
    | failed fault =>
      rw [ha] at h
      cases h
    | link dir target rest =>
      rw [ha] at h hfits
      cases links with
      | zero => cases h
      | succ links =>
        rw [walkOn] at h
        by_cases htarget : target = ""
        · rw [if_pos htarget] at h
          cases h
        · rw [if_neg htarget] at h
          refine ih links (Nat.lt_succ_self links) ?_ h
          unfold linkStart
          split_ifs
          · exact .nil limit
          · exact hfits

/-- The names of a resolved place lead there as far as their length goes. -/
theorem Resolved.advance_of_fits (hp : fs.Resolved p) (hfits : Fits limit p) (rest : List Step) :
    fs.advance limit [] (namesToSteps p ++ rest) = fs.advance limit p rest := by
  -- the names that are left are taken one by one, from a place on the way
  have key : ∀ done left, done ++ left = p →
      fs.advance limit done (namesToSteps left ++ rest) = fs.advance limit p rest := by
    intro done left
    induction left generalizing done with
    | nil =>
      intro e
      rw [← e, List.append_nil]
      rfl
    | cons n left ih =>
      intro e
      have hnext : done ++ [n] <+: p := ⟨left, by simpa using e⟩
      have hover : overruns limit done (.name n) = false := by
        cases limit with
        | none => rfl
        | some bound => simpa [overruns] using hfits.text bound rfl _ hnext (by simp)
      obtain ⟨mode, hm⟩ := isDirAt_iff.1 (hp.way done ⟨_, e⟩ fun he => by simp [he] at e)
      obtain ⟨node, hn, hlink⟩ : fs.Stands (done ++ [n]) := by
        by_cases hend : done ++ [n] = p
        · exact hend ▸ hp.stands
        · exact stands_of_isDirAt (hp.way _ hnext hend)
      have hsteps : namesToSteps (n :: left) ++ rest =
        .name n :: (namesToSteps left ++ rest) := rfl
      have hlong : ¬ longestName < n.utf8ByteSize := Nat.not_lt.2 (hfits.names n (by simp [← e]))
      rw [hsteps, advance.eq_def]
      -- `hlink` rules out the case of a link
      simp only [hover, Bool.false_eq_true, if_false, hm, hlong, hn]
      exact ih (done ++ [n]) (by simpa using e)
  exact key [] p rfl

/-- A limit on the texts of places only makes steps fail. -/
theorem advance_limit_cases (fs : FileSystem) (limit : Option Nat) (p : Place)
    (steps : List Step) : fs.advance limit p steps = fs.advance none p steps ∨
      fs.advance limit p steps = .failed .nameTooLong := by
  induction steps generalizing p with
  | nil => exact Or.inl rfl
  | cons step steps ih =>
    have hnone : overruns none p step = false := by cases step <;> rfl
    rw [advance.eq_def, advance.eq_def fs none p]
    dsimp only
    by_cases hover : overruns limit p step = true
    · exact Or.inr (if_pos hover)
    · rw [if_neg hover, if_neg (by simp [hnone])]
      split
      · split
        · exact ih p
        · exact ih p.dropLast
        · rename_i n
          by_cases hlong : longestName < n.utf8ByteSize
          · rw [if_pos hlong, if_pos hlong]
            exact Or.inl rfl
          · rw [if_neg hlong, if_neg hlong]
            split
            · exact Or.inl rfl
            · exact Or.inl rfl
            · exact ih (p ++ [n])
      · exact Or.inl rfl

theorem walk_limit_cases (fs : FileSystem) (limit : Option Nat) (links : Nat) (p : Place)
    (steps : List Step) : fs.walk limit links p steps = fs.walk none links p steps ∨
      fs.walk limit links p steps = .failed .nameTooLong := by
  induction links using Nat.strongRecOn generalizing p steps with
  | ind links ih =>
    rw [walk_eq_walkOn, walk_eq_walkOn fs none]
    rcases advance_limit_cases fs limit p steps with h | h
    · rw [h]
      cases fs.advance none p steps with
      | link dir target rest =>
        cases links with
        | zero => exact Or.inl rfl
        | succ links =>
          dsimp only [walkOn]
          by_cases htarget : target = ""
          · rw [if_pos htarget, if_pos htarget]
            exact Or.inl rfl
          · rw [if_neg htarget, if_neg htarget]
            exact ih links (Nat.lt_succ_self links) _ _
      | _ => exact Or.inl rfl
    · rw [h]
      exact Or.inr rfl

/-- The place of the existing node that the path of a text leads to from the root, be the texts of
the places on the way as long as they may. -/
def reach (fs : FileSystem) (s : String) : Except FileFault Place :=
  (fs.destination none [] s).existing

theorem canonical_cases (fs : FileSystem) (s : String) :
    fs.canonical [] s = fs.reach s ∨ fs.canonical [] s = .error .nameTooLong := by
  unfold canonical reach destination
  cases textFault? s with
  | some fault => exact Or.inl rfl
  | none =>
    dsimp only
    rw [ite_self]
    rcases walk_limit_cases fs (some pathLimit) linkLimit [] (Path.ofText s).steps with h | h
    · exact Or.inl (by rw [h])
    · exact Or.inr (by rw [h]; rfl)

/-- The text of names leads where the names lead, unless a character is in it that no path has. -/
theorem existing_destination_text (fs : FileSystem) (limit : Option Nat) {place : Place}
    (h : ∀ n ∈ place, Path.IsName n) :
    (fs.destination limit [] place.text).existing =
      if '\x00' ∈ place.text.toList then .error .zeroInPath
      else (fs.walk limit linkLimit [] (namesToSteps place)).existing := by
  unfold destination textFault?
  by_cases hzero : '\x00' ∈ place.text.toList
  · rw [if_pos hzero, if_pos (List.contains_iff_mem.2 hzero)]
    rfl
  · rw [if_neg hzero, if_neg (by simpa using hzero), if_neg place.text_ne_empty]
    dsimp only
    rw [ite_self]
    by_cases hnil : place = []
    · subst hnil
      have hsteps : (Path.ofText (Place.text [])).steps = [.here] := by decide +kernel
      rw [hsteps, walk_eq_walkOn, advance_here limit fs.isDirAt_root, ← walk_eq_walkOn]
      rfl
    · have hnames : ∀ n ∈ place, IsEntryName n := by
        intro n hn
        obtain ⟨hempty, hdot, hdots, hslash⟩ := h n hn
        refine ⟨hempty, hdot, hdots, hslash, fun hmem => hzero ?_⟩
        rw [Path.mem_toList_iff (by decide) (by decide), Path.moves_text h]
        exact ⟨n, List.mem_map_of_mem hn, hmem⟩
      rw [Path.ofText_text hnames hnil]

end FileSystem

end ImageBuild
