import Mathlib.Logic.Relation
import ImageBuild.Proofs.FileSystem.Limits

/-!
# Stages of resolving

Resolving a path goes on from one stage to the next (`Proceeds`): through a directory to its entry
or its parent, or to the target of a link. It stops for a reason (`Stops`): what should be entered
is not there or no directory, a name or a text is too long, or too many links were followed. A stage
has one outcome, which each step keeps (`Proceeds.outcome`); since every stage is done, goes on or
stops, and no resolving goes on for ever, the outcome is told by the stage at the end
(`outcome_eq_ok_iff`, `outcome_eq_error_iff`).
-/

namespace ImageBuild

/-- A path on its way: how many links may still be followed, where it is, and the steps that are
left. -/
structure Stage where
  links : Nat
  place : Place
  steps : List Step

namespace FileSystem

/-- A name that can be looked up in a directory. -/
structure CanBeSought (fs : FileSystem) (limit : Option Nat) (p : Place) (n : Name) : Prop where
  isDir : fs.isDirAt p = true
  name : n.utf8ByteSize ≤ longestName
  text : overruns limit p (.name n) = false

/-- One stage after another. -/
inductive Proceeds (fs : FileSystem) (limit : Option Nat) : Stage → Stage → Prop
  | here {links p rest} (hdir : fs.isDirAt p = true) :
      Proceeds fs limit ⟨links, p, .here :: rest⟩ ⟨links, p, rest⟩
  | up {links p rest} (hdir : fs.isDirAt p = true) :
      Proceeds fs limit ⟨links, p, .up :: rest⟩ ⟨links, p.dropLast, rest⟩
  | enter {links p n rest} (hsought : fs.CanBeSought limit p n) (hstands : fs.Stands (p ++ [n])) :
      Proceeds fs limit ⟨links, p, .name n :: rest⟩ ⟨links, p ++ [n], rest⟩
  | follow {links p n rest target} (hsought : fs.CanBeSought limit p n)
      (hlink : fs.lookup (p ++ [n]) = some (.link target)) (htarget : target ≠ "") :
      Proceeds fs limit ⟨links + 1, p, .name n :: rest⟩
        ⟨links, linkStart target p, (Path.ofText target).steps ++ rest⟩

/-- Why a path leads nowhere from a stage. -/
inductive Stops (fs : FileSystem) (limit : Option Nat) : Stage → FileFault → Prop
  /-- The text of the next place is too long. -/
  | textTooLong {links p step rest} (hover : overruns limit p step = true) :
      Stops fs limit ⟨links, p, step :: rest⟩ .nameTooLong
  /-- A step is to be taken from what is no directory. -/
  | notADirectory {links p step rest} (hover : overruns limit p step = false)
      (hdir : fs.isDirAt p = false) :
      Stops fs limit ⟨links, p, step :: rest⟩ .notADirectory
  | nameTooLong {links p n rest} (hover : overruns limit p (.name n) = false)
      (hdir : fs.isDirAt p = true) (hlong : longestName < n.utf8ByteSize) :
      Stops fs limit ⟨links, p, .name n :: rest⟩ .nameTooLong
  /-- Nothing has the next name. -/
  | missing {links p n rest} (hsought : fs.CanBeSought limit p n)
      (hnone : fs.lookup (p ++ [n]) = none) :
      Stops fs limit ⟨links, p, .name n :: rest⟩ .notFound
  /-- A link leads to nothing at all. -/
  | emptyLink {links p n rest} (hsought : fs.CanBeSought limit p n)
      (hlink : fs.lookup (p ++ [n]) = some (.link "")) :
      Stops fs limit ⟨links + 1, p, .name n :: rest⟩ .notFound
  | tooManyLinks {p n rest target} (hsought : fs.CanBeSought limit p n)
      (hlink : fs.lookup (p ++ [n]) = some (.link target)) :
      Stops fs limit ⟨0, p, .name n :: rest⟩ .tooManyLinks

/-- What comes of the steps that are left. -/
def outcome (fs : FileSystem) (limit : Option Nat) (s : Stage) : Except FileFault Place :=
  (fs.walk limit s.links s.place s.steps).existing

/-! ## Steps keep the outcome -/

variable {fs : FileSystem} {limit : Option Nat} {links : Nat} {p q : Place} {n : Name}
  {s t : Stage} {fault : FileFault}

theorem CanBeSought.advance_eq (h : fs.CanBeSought limit p n) (rest : List Step) :
    fs.advance limit p (.name n :: rest) =
      match fs.lookup (p ++ [n]) with
      | none => if rest = [] then .missing (p ++ [n]) else .failed .notFound
      | some (.link target) => .link p target rest
      | some _ => fs.advance limit (p ++ [n]) rest := by
  obtain ⟨mode, hm⟩ := isDirAt_iff.1 h.isDir
  rw [advance, if_neg (by simp [h.text]), hm]
  dsimp only
  rcases fs.lookup (p ++ [n]) with _ | node
  · exact if_neg (Nat.not_lt.2 h.name)
  · cases node <;> exact if_neg (Nat.not_lt.2 h.name)

/-- A step keeps the outcome. -/
theorem Proceeds.outcome (h : fs.Proceeds limit s t) : fs.outcome limit s = fs.outcome limit t := by
  unfold FileSystem.outcome
  cases h with
  | here hdir => rw [walk_eq_walkOn, advance_here limit hdir, ← walk_eq_walkOn]
  | up hdir => rw [walk_eq_walkOn, advance_up limit hdir, ← walk_eq_walkOn]
  | enter hsought hstands =>
    obtain ⟨node, hnode, hlink⟩ := hstands
    dsimp only
    rw [walk_eq_walkOn, hsought.advance_eq, hnode]
    cases node with
    | link target => exact absurd rfl (hlink target)
    | _ => exact congrArg Destination.existing (walk_eq_walkOn ..).symm
  | follow hsought hlink htarget =>
    dsimp only
    rw [walk_eq_walkOn, hsought.advance_eq, hlink]
    dsimp only [walkOn]
    rw [if_neg htarget]

/-- Where resolving stops, the outcome is the reason. -/
theorem Stops.outcome (h : fs.Stops limit s fault) : fs.outcome limit s = .error fault := by
  unfold FileSystem.outcome
  cases h with
  | textTooLong hover =>
    dsimp only
    rw [walk_eq_walkOn, advance.eq_def]
    dsimp only
    rw [if_pos hover]
    rfl
  | notADirectory hover hdir =>
    dsimp only
    rw [walk_eq_walkOn, advance.eq_def]
    dsimp only
    rw [if_neg (by simp [hover])]
    split
    · rename_i mode hm
      rw [isDirAt_iff.2 ⟨mode, hm⟩] at hdir
      cases hdir
    · rfl
  | nameTooLong hover hdir hlong =>
    obtain ⟨mode, hm⟩ := isDirAt_iff.1 hdir
    dsimp only
    rw [walk_eq_walkOn, advance, if_neg (by simp [hover]), hm]
    dsimp only
    rw [if_pos hlong]
    rfl
  | missing hsought hnone =>
    dsimp only
    rw [walk_eq_walkOn, hsought.advance_eq, hnone]
    dsimp only
    split_ifs <;> rfl
  | emptyLink hsought hlink =>
    dsimp only
    rw [walk_eq_walkOn, hsought.advance_eq, hlink]
    rfl
  | tooManyLinks hsought hlink =>
    dsimp only
    rw [walk_eq_walkOn, hsought.advance_eq, hlink]
    rfl

/-! ## The end of a resolution -/

/-- A path that has steps left goes on or stops. -/
theorem proceeds_or_stops (fs : FileSystem) (limit : Option Nat) (links : Nat) (p : Place)
    (step : Step) (rest : List Step) :
    (∃ t, fs.Proceeds limit ⟨links, p, step :: rest⟩ t) ∨
      ∃ fault, fs.Stops limit ⟨links, p, step :: rest⟩ fault := by
  by_cases hover : overruns limit p step = true
  · exact Or.inr ⟨_, .textTooLong hover⟩
  rw [Bool.not_eq_true] at hover
  by_cases hdir : fs.isDirAt p = true
  · cases step with
    | here => exact Or.inl ⟨_, .here hdir⟩
    | up => exact Or.inl ⟨_, .up hdir⟩
    | name n =>
      by_cases hlong : longestName < n.utf8ByteSize
      · exact Or.inr ⟨_, .nameTooLong hover hdir hlong⟩
      have hsought : fs.CanBeSought limit p n := ⟨hdir, Nat.not_lt.1 hlong, hover⟩
      rcases hl : fs.lookup (p ++ [n]) with _ | node
      · exact Or.inr ⟨_, .missing hsought hl⟩
      · cases node with
        | link target =>
          cases links with
          | zero => exact Or.inr ⟨_, .tooManyLinks hsought hl⟩
          | succ links =>
            by_cases htarget : target = ""
            · subst htarget
              exact Or.inr ⟨_, .emptyLink hsought hl⟩
            · exact Or.inl ⟨_, .follow hsought hl htarget⟩
        | _ => exact Or.inl ⟨_, .enter hsought ⟨_, hl, by simp⟩⟩
  · exact Or.inr ⟨_, .notADirectory hover (by simpa using hdir)⟩

/-- A step follows a link, or takes one of the steps that are left. -/
theorem Proceeds.lex (h : fs.Proceeds limit s t) :
    Prod.Lex (· < ·) (· < ·) (t.links, t.steps.length) (s.links, s.steps.length) := by
  cases h with
  | follow => exact .left _ _ (Nat.lt_succ_self _)
  | _ => exact .right _ (Nat.lt_succ_self _)

/-- No resolution goes on for ever: it comes to an end, or stops. -/
theorem exists_end (fs : FileSystem) (limit : Option Nat) (s : Stage) :
    ∃ t, Relation.ReflTransGen (fs.Proceeds limit) s t ∧
      (t.steps = [] ∨ ∃ fault, fs.Stops limit t fault) := by
  have hwf : WellFounded fun t s => fs.Proceeds limit s t :=
    Subrelation.wf Proceeds.lex
      (InvImage.wf (fun s : Stage => (s.links, s.steps.length))
        (Prod.lex Nat.lt_wfRel Nat.lt_wfRel).wf)
  induction s using hwf.induction with
  | _ s ih =>
    obtain ⟨links, p, steps⟩ := s
    cases steps with
    | nil => exact ⟨_, .refl, Or.inl rfl⟩
    | cons step rest =>
      rcases proceeds_or_stops fs limit links p step rest with ⟨t, ht⟩ | hstops
      · obtain ⟨u, hu, hend⟩ := ih t ht
        exact ⟨u, .head ht hu, hend⟩
      · exact ⟨_, .refl, Or.inr hstops⟩

theorem outcome_of_reaches (h : Relation.ReflTransGen (fs.Proceeds limit) s t) :
    fs.outcome limit s = fs.outcome limit t := by
  induction h with
  | refl => rfl
  | tail _ hstep ih => exact ih.trans hstep.outcome

theorem outcome_done (fs : FileSystem) (limit : Option Nat) (links : Nat) (p : Place) :
    fs.outcome limit ⟨links, p, []⟩ = .ok p := by
  unfold outcome
  rw [walk_eq_walkOn]
  rfl

/-- Something is found exactly where the steps come to an end. -/
theorem outcome_eq_ok_iff : fs.outcome limit s = .ok q ↔
    ∃ links, Relation.ReflTransGen (fs.Proceeds limit) s ⟨links, q, []⟩ := by
  constructor
  · intro h
    obtain ⟨⟨links, p, steps⟩, hreach, hsteps | ⟨fault, hstops⟩⟩ := exists_end fs limit s
    · obtain rfl : steps = [] := hsteps
      rw [outcome_of_reaches hreach, outcome_done, Except.ok.injEq] at h
      exact ⟨links, h ▸ hreach⟩
    · rw [outcome_of_reaches hreach, hstops.outcome] at h
      cases h
  · rintro ⟨links, hreach⟩
    rw [outcome_of_reaches hreach, outcome_done]

/-- Resolving fails exactly if it stops somewhere, for that reason. -/
theorem outcome_eq_error_iff : fs.outcome limit s = .error fault ↔
    ∃ t, Relation.ReflTransGen (fs.Proceeds limit) s t ∧ fs.Stops limit t fault := by
  constructor
  · intro h
    obtain ⟨⟨links, p, steps⟩, hreach, hsteps | ⟨fault', hstops⟩⟩ := exists_end fs limit s
    · obtain rfl : steps = [] := hsteps
      rw [outcome_of_reaches hreach, outcome_done] at h
      cases h
    · rw [outcome_of_reaches hreach, hstops.outcome, Except.error.injEq] at h
      exact ⟨_, hreach, h ▸ hstops⟩
  · rintro ⟨t, hreach, hstops⟩
    rw [outcome_of_reaches hreach, hstops.outcome]

/-! ## Texts -/

/-- The first stage of a text that is seen from a directory. -/
def firstStage (cwd : Place) (text : String) : Stage :=
  ⟨linkLimit, if (Path.ofText text).rooted then [] else cwd, (Path.ofText text).steps⟩

/-- A text resolves to a place: its steps come to an end there. -/
def ResolvesTo (fs : FileSystem) (cwd : Place) (text : String) (p : Place) : Prop :=
  textFault? text = none ∧
    ∃ links, Relation.ReflTransGen (fs.Proceeds (some pathLimit)) (firstStage cwd text)
      ⟨links, p, []⟩

/-- A text does not resolve for a reason: no path is written like that, or its steps stop. -/
def FailsBy (fs : FileSystem) (cwd : Place) (text : String) (fault : FileFault) : Prop :=
  textFault? text = some fault ∨ textFault? text = none ∧
    ∃ s, Relation.ReflTransGen (fs.Proceeds (some pathLimit)) (firstStage cwd text) s ∧
      fs.Stops (some pathLimit) s fault

variable {cwd : Place} {text : String}

theorem canonical_eq_outcome (htext : textFault? text = none) :
    fs.canonical cwd text = fs.outcome (some pathLimit) (firstStage cwd text) := by
  unfold canonical destination
  rw [htext]
  rfl

theorem canonical_eq_ok_iff : fs.canonical cwd text = .ok p ↔ fs.ResolvesTo cwd text p := by
  cases htext : textFault? text with
  | none =>
    rw [canonical_eq_outcome htext, outcome_eq_ok_iff]
    simp [ResolvesTo, htext]
  | some fault => simp [canonical, destination, htext, ResolvesTo, Destination.existing]

theorem canonical_eq_error_iff :
    fs.canonical cwd text = .error fault ↔ fs.FailsBy cwd text fault := by
  cases htext : textFault? text with
  | none =>
    rw [canonical_eq_outcome htext, outcome_eq_error_iff]
    simp [FailsBy, htext]
  | some fault' => simp [canonical, destination, htext, FailsBy, Destination.existing]

/-- A regular file that something resolves to from the root can be read by the text of its place. -/
theorem WellFormed.readBytes_of_canonical (h : fs.WellFormed)
    (hc : fs.canonical [] text = .ok p) (hfile : fs.isFileAt p = true) :
    ∃ bytes, fs.readBytes [] p.text = .ok bytes := by
  have hresolved := h.resolved_of_canonical hc
  have hfits : Fits (some pathLimit) p := by
    have hfound := Destination.existing_eq_ok_iff.1 hc
    unfold destination at hfound
    split at hfound
    · cases hfound
    · dsimp only at hfound
      rw [ite_self] at hfound
      exact fits_of_walk (.nil _) hfound
  obtain ⟨content, mode, time, hl⟩ := isFileAt_iff.1 hfile
  have hne : p ≠ [] := by
    rintro rfl
    rw [lookup_root] at hl
    cases hl
  unfold readBytes
  rw [hresolved.resolve_text hne [] hfits.names (hfits.text _ rfl p List.prefix_rfl hne)]
  dsimp only
  rw [hl]
  exact ⟨content, rfl⟩

/-! ## More nodes -/

/-- What stands somewhere in a file system stands there in another one, too. -/
def Extends (fs fs' : FileSystem) : Prop :=
  ∀ ⦃p node⦄, fs.lookup p = some node → fs'.lookup p = some node

variable {fs' : FileSystem}

theorem Extends.isDirAt (h : fs.Extends fs') (hdir : fs.isDirAt p = true) :
    fs'.isDirAt p = true := by
  obtain ⟨mode, hl⟩ := isDirAt_iff.1 hdir
  exact isDirAt_iff.2 ⟨mode, h hl⟩

theorem Extends.isFileAt (h : fs.Extends fs') (hfile : fs.isFileAt p = true) :
    fs'.isFileAt p = true := by
  obtain ⟨content, mode, time, hl⟩ := isFileAt_iff.1 hfile
  exact isFileAt_iff.2 ⟨content, mode, time, h hl⟩

theorem CanBeSought.of_extends {n : Name} (h : fs.Extends fs') (hsought : fs.CanBeSought limit p n) :
    fs'.CanBeSought limit p n :=
  ⟨h.isDirAt hsought.isDir, hsought.name, hsought.text⟩

theorem Proceeds.of_extends (h : fs.Extends fs') (hnext : fs.Proceeds limit s t) :
    fs'.Proceeds limit s t := by
  cases hnext with
  | here hdir => exact .here (h.isDirAt hdir)
  | up hdir => exact .up (h.isDirAt hdir)
  | enter hsought hstands =>
    obtain ⟨node, hl, hlink⟩ := hstands
    exact .enter (hsought.of_extends h) ⟨node, h hl, hlink⟩
  | follow hsought hlink htarget => exact .follow (hsought.of_extends h) (h hlink) htarget

/-- What a text resolves to does not change when nodes are added. -/
theorem ResolvesTo.of_extends (h : fs.Extends fs') (hresolves : fs.ResolvesTo cwd text p) :
    fs'.ResolvesTo cwd text p := by
  obtain ⟨htext, links, hreach⟩ := hresolves
  exact ⟨htext, links, hreach.lift id fun _ _ => Proceeds.of_extends h⟩

end FileSystem

end ImageBuild
