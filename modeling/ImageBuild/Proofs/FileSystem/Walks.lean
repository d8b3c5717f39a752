import ImageBuild.Proofs.FileSystem.Resolved
import ImageBuild.Proofs.PathSteps

/-!
# Walks in two parts

A walk over some steps is a walk over the first of them, and one over the rest from where it ended,
with the links that are left (`exists_walk_append`). So a name can be taken out together with the
step up that undoes it where a directory has that name (`walk_undone`), and from that all names that
are undone (`walk_cancelled`). Steps nowhere can be taken out as well, but at the end one asks for a
directory (`existing_walk_moves`).
-/

namespace ImageBuild

namespace FileSystem

variable {fs : FileSystem} {limit : Option Nat} {links : Nat} {p q : Place} {steps rest : List Step}
  {n : Name} {fault : FileFault}

/-! ## Steps and the steps after them -/

/-- Where steps lead if others come after them. -/
def advanceOn (fs : FileSystem) (limit : Option Nat) (rest : List Step) : Advance → Advance
  | .arrived place => fs.advance limit place rest
  | .missing place => if rest = [] then .missing place else .failed .notFound
  | .link dir target left => .link dir target (left ++ rest)
  | .failed fault => .failed fault

theorem advance_append (fs : FileSystem) (limit : Option Nat) (p : Place)
    (steps rest : List Step) :
    fs.advance limit p (steps ++ rest) = fs.advanceOn limit rest (fs.advance limit p steps) := by
  induction steps generalizing p with
  | nil => rfl
  | cons step steps ih =>
    rw [List.cons_append, advance.eq_def, advance.eq_def fs limit p (step :: steps)]
    dsimp only
    by_cases hover : overruns limit p step = true
    · rw [if_pos hover, if_pos hover]
      rfl
    · rw [if_neg hover, if_neg hover]
      cases fs.lookup p with
      | none => rfl
      | some node =>
        cases node with
        | dir mode =>
          cases step with
          | here => exact ih p
          | up => exact ih p.dropLast
          | name n =>
            dsimp only
            by_cases hlong : longestName < n.utf8ByteSize
            · rw [if_pos hlong, if_pos hlong]
              rfl
            · rw [if_neg hlong, if_neg hlong]
              cases fs.lookup (p ++ [n]) with
              | none =>
                by_cases hsteps : steps = []
                · subst hsteps
                  simp [advanceOn]
                · simp [hsteps, advanceOn]
              | some next =>
                cases next with
                | link target => rfl
                | _ => exact ih (p ++ [n])
        | _ => rfl

/-- Where the target of a link in a directory is seen from. -/
def linkStart (target : String) (dir : Place) : Place :=
  if (Path.ofText target).rooted then [] else dir

/-- Where a walk leads after its first steps. -/
def walkOn (fs : FileSystem) (limit : Option Nat) (links : Nat) : Advance → Destination
  | .arrived place => .found place
  | .missing place => .missing place
  | .failed fault => .failed fault
  | .link dir target rest =>
    match links with
    | 0 => .failed .tooManyLinks
    | links + 1 =>
      if target = "" then .failed .notFound
      else fs.walk limit links (linkStart target dir) ((Path.ofText target).steps ++ rest)

theorem walk_eq_walkOn (fs : FileSystem) (limit : Option Nat) (links : Nat) (p : Place)
    (steps : List Step) :
    fs.walk limit links p steps = fs.walkOn limit links (fs.advance limit p steps) := by
  rw [walk.eq_def]
  rfl

theorem walk_cons (fs : FileSystem) (limit : Option Nat) (links : Nat) (p : Place) (step : Step)
    (rest : List Step) : fs.walk limit links p (step :: rest) =
      fs.walkOn limit links (fs.advanceOn limit rest (fs.advance limit p [step])) := by
  rw [walk_eq_walkOn, ← List.singleton_append, advance_append]

/-- After a walk that ends somewhere, the steps behind it go on from there. -/
theorem exists_walk_append (h : fs.walk limit links p steps = .found q) :
    ∃ left ≤ links, ∀ rest,
      fs.walk limit links p (steps ++ rest) = fs.walk limit left q rest := by
  induction links using Nat.strongRecOn generalizing p steps with
  | ind links ih =>
    rw [walk_eq_walkOn] at h
    cases ha : fs.advance limit p steps with
    | arrived place =>
      rw [ha] at h
      obtain rfl := Destination.found.inj h
      refine ⟨links, Nat.le_refl links, fun rest => ?_⟩
      rw [walk_eq_walkOn, advance_append, ha, advanceOn, ← walk_eq_walkOn]
    | link dir target left =>
      rw [ha] at h
      cases links with
      | zero => cases h
      | succ links =>
        rw [walkOn] at h
        by_cases htarget : target = ""
        · rw [if_pos htarget] at h
          cases h
        · rw [if_neg htarget] at h
          obtain ⟨unused, hle, hgoes⟩ := ih links (Nat.lt_succ_self links) h
          refine ⟨unused, by omega, fun rest => ?_⟩
          rw [walk_eq_walkOn, advance_append, ha, advanceOn, walkOn, if_neg htarget,
            ← List.append_assoc]
          exact hgoes rest
    | missing place =>
      rw [ha] at h
      cases h
    | failed fault =>
      rw [ha] at h
      cases h

/-- A walk that comes to nothing ends so whatever steps come behind it. -/
theorem existing_walk_append (h : (fs.walk limit links p steps).existing = .error fault)
    (hrest : rest ≠ []) :
    (fs.walk limit links p (steps ++ rest)).existing = .error fault := by
  induction links using Nat.strongRecOn generalizing p steps with
  | ind links ih =>
    rw [walk_eq_walkOn] at h
    rw [walk_eq_walkOn, advance_append]
    cases ha : fs.advance limit p steps with
    | arrived place =>
      rw [ha] at h
      cases h
    | missing place =>
      rw [ha] at h
      rw [advanceOn, if_neg hrest]
      exact h
    | failed fault' =>
      rw [ha] at h
      exact h
    | link dir target left =>
      rw [ha] at h
      cases links with
      | zero => exact h
      | succ links =>
        rw [walkOn] at h
        rw [advanceOn, walkOn]
        split_ifs at h ⊢ with htarget
        · exact h
        · rw [← List.append_assoc]
          exact ih links (Nat.lt_succ_self links) h

/-! ## Names that are undone -/

/-- A step by the name of a directory goes there, if it goes anywhere. -/
theorem advance_name_of_walk (h : fs.walk limit links p [.name n] = .found q)
    (hdir : fs.isDirAt (p ++ [n]) = true) (rest : List Step) :
    fs.advance limit p (.name n :: rest) = fs.advance limit (p ++ [n]) rest := by
  obtain ⟨mode, hm⟩ := isDirAt_iff.1 hdir
  have hname : fs.advance limit p [.name n] = .arrived (p ++ [n]) := by
    rw [walk_eq_walkOn] at h
    by_cases hd : fs.isDirAt p = true
    · rcases advance_name_cases limit hd n [] with ⟨fault, ha⟩ | ⟨hnone, -, -⟩ | ⟨target, hlink, -⟩ |
        ⟨-, ha⟩
      · rw [ha] at h
        cases h
      · rw [hm] at hnone
        cases hnone
      · rw [hm] at hlink
        cases hlink
      · exact ha
    · obtain ⟨fault, ha⟩ := advance_of_not_isDirAt limit (by simpa using hd) (.name n) []
      rw [ha] at h
      cases h
  rw [← List.singleton_append, advance_append, hname, advanceOn]

/-- The name of a directory and the step up from there can be left out. -/
theorem walk_undone (hsteps : fs.walk limit links p steps = .found q)
    (hname : fs.walk limit links p (steps ++ [.name n]) = .found (q ++ [n]))
    (hdir : fs.isDirAt (q ++ [n]) = true) (rest : List Step) :
    fs.walk limit links p (steps ++ .name n :: .up :: rest) =
      fs.walk limit links p (steps ++ rest) := by
  obtain ⟨left, -, hleft⟩ := exists_walk_append hsteps
  rw [hleft] at hname
  rw [hleft, hleft, walk_eq_walkOn, advance_name_of_walk hname hdir, advance_up limit hdir,
    List.dropLast_concat, ← walk_eq_walkOn]

/-- Wherever steps come to a name that a later step up undoes, a directory has that name. -/
def UndoesDirectories (fs : FileSystem) (steps : List Step) : Prop :=
  ∀ before n between after, steps = before ++ .name n :: (between ++ .up :: after) →
    Path.cancel [] between = some [] →
    ∃ p, fs.walk none linkLimit [] before = .found p ∧
      fs.walk none linkLimit [] (before ++ [.name n]) = .found (p ++ [n]) ∧
      fs.isDirAt (p ++ [n]) = true

theorem UndoesDirectories.of_append (h : fs.UndoesDirectories (steps ++ rest)) :
    fs.UndoesDirectories steps := by
  rintro before n between after rfl hbetween
  exact h before n between (after ++ rest) (by simp) hbetween

/-- Steps that undo names of directories only lead where the names that are left lead. -/
theorem walk_cancelled {names : List Name} (hnames : Path.cancel [] steps = some names)
    (hmoves : .here ∉ steps) (hundone : fs.UndoesDirectories steps) (rest : List Step) :
    fs.walk none linkLimit [] (steps ++ rest) =
      fs.walk none linkLimit [] (namesToSteps names.reverse ++ rest) := by
  -- on the number of steps: a step up falls back on the steps before the name that it undoes
  induction hlength : steps.length using Nat.strongRecOn generalizing steps names rest with
  | ind length ih =>
    rcases List.eq_nil_or_concat steps with rfl | ⟨init, last, rfl⟩
    · obtain rfl := Option.some.inj hnames
      rfl
    · rw [List.concat_eq_append] at *
      rw [List.length_append, List.length_singleton] at hlength
      rw [Path.cancel_append] at hnames
      obtain ⟨stack, hstack, hlast⟩ := Option.bind_eq_some_iff.1 hnames
      have hinit := ih init.length (by omega) hstack (fun h => hmoves (by simp [h]))
        hundone.of_append
      cases last with
      | here => simp at hmoves
      | name n =>
        obtain rfl : n :: stack = names := Option.some.inj hlast
        rw [List.append_assoc, hinit _ rfl]
        simp [namesToSteps]
      | up =>
        rcases stack with _ | ⟨n, stack⟩
        · cases hlast
        · obtain rfl : stack = names := Option.some.inj hlast
          obtain ⟨before, between, rfl, hbefore, hbetween⟩ := Path.exists_of_cancel_cons hstack
          have hfront := ih before.length (by simp at hlength; omega) hbefore
            (fun h => hmoves (by simp [h])) (by
              rw [List.append_assoc] at hundone
              exact hundone.of_append)
          obtain ⟨p, hp, hname, hdir⟩ := hundone before n between [] (by simp) hbetween
          have hp' := hfront [] rfl
          rw [List.append_nil, List.append_nil, hp] at hp'
          have hname' := hfront [.name n] rfl
          rw [hname] at hname'
          rw [List.append_assoc, hinit _ rfl, List.reverse_cons, List.singleton_append]
          have hsteps : namesToSteps (stack.reverse ++ [n]) ++ .up :: rest =
            namesToSteps stack.reverse ++ .name n :: .up :: rest := by simp [namesToSteps]
          rw [hsteps]
          exact walk_undone hp'.symm hname'.symm hdir rest

/-! ## Steps nowhere -/

/-- Steps with some of those nowhere taken out, but not the one that comes last. -/
inductive Trimmed : List Step → List Step → Prop
  | nil : Trimmed [] []
  | cons (step : Step) {steps steps' : List Step} (h : Trimmed steps steps') :
      Trimmed (step :: steps) (step :: steps')
  | here {steps steps' : List Step} (h : Trimmed steps steps') (hne : steps' ≠ []) :
      Trimmed (.here :: steps) steps'

namespace Trimmed

variable {steps' : List Step}

theorem append_left (front : List Step) (h : Trimmed steps steps') :
    Trimmed (front ++ steps) (front ++ steps') := by
  induction front with
  | nil => exact h
  | cons step front ih => exact .cons step ih

theorem eq_nil_iff (h : Trimmed steps steps') : steps = [] ↔ steps' = [] := by
  cases h with
  | nil => simp
  | cons => simp
  | here h hne => simp [hne]

theorem moves (hlast : steps.getLast? ≠ some .here) : Trimmed steps (Path.moves steps) := by
  induction steps with
  | nil => exact .nil
  | cons step steps ih =>
    have hrest : Trimmed steps (Path.moves steps) := by
      by_cases hsteps : steps = []
      · subst hsteps
        exact .nil
      · refine ih fun h => hlast ?_
        rwa [List.getLast?_cons_of_ne_nil hsteps]
    cases step with
    | here =>
      have hsteps : steps ≠ [] := by
        rintro rfl
        exact hlast rfl
      exact .here hrest fun h => hsteps (hrest.eq_nil_iff.2 h)
    | up => exact .cons .up hrest
    | name n => exact .cons (.name n) hrest

end Trimmed

theorem advance_none_of_not_isDirAt (h : fs.isDirAt p = false) (step : Step) (rest : List Step) :
    fs.advance none p (step :: rest) = .failed .notADirectory := by
  have hover : overruns none p step = false := by cases step <;> rfl
  rw [advance.eq_def]
  simp only [hover, Bool.false_eq_true, if_false]
  split
  · rename_i mode hm
    rw [isDirAt_iff.2 ⟨mode, hm⟩] at h
    cases h
  · rfl

/-- Steps nowhere can be left out where another step comes after them; a limit on texts may change
the reason for which the steps fail. -/
theorem walk_trimmed {steps' : List Step} (h : Trimmed steps steps') :
    fs.walk limit links p steps = fs.walk limit links p steps' ∨
      limit ≠ none ∧ ∃ fault, fs.walk limit links p steps = .failed fault := by
  induction links using Nat.strongRecOn generalizing p steps steps' with
  | ind links ihLinks =>
    induction h generalizing p with
    | nil => exact Or.inl rfl
    | @here steps _ h hne ih =>
      by_cases hd : fs.isDirAt p = true
      · rw [walk_eq_walkOn, advance_here limit hd, ← walk_eq_walkOn]
        exact ih
      · -- no step is taken from what is no directory
        obtain ⟨step, rest, rfl⟩ := List.exists_cons_of_ne_nil hne
        replace hd : fs.isDirAt p = false := by simpa using hd
        by_cases hnone : limit = none
        · subst hnone
          left
          rw [walk_eq_walkOn, walk_eq_walkOn, advance_none_of_not_isDirAt hd,
            advance_none_of_not_isDirAt hd]
        · obtain ⟨fault, ha⟩ := advance_of_not_isDirAt limit hd .here steps
          exact Or.inr ⟨hnone, fault, walk_of_advance_failed ha⟩
    | cons step h ih =>
      rw [walk_cons, walk_cons]
      cases fs.advance limit p [step] with
      | arrived place =>
        rw [advanceOn, advanceOn, ← walk_eq_walkOn, ← walk_eq_walkOn]
        exact ih
      | missing place =>
        left
        simp only [advanceOn, h.eq_nil_iff]
      | failed fault => exact Or.inl rfl
      | link dir target left =>
        cases links with
        | zero => exact Or.inl rfl
        | succ links =>
          rw [advanceOn, advanceOn, walkOn, walkOn]
          by_cases htarget : target = ""
          · rw [if_pos htarget, if_pos htarget]
            exact Or.inl rfl
          · rw [if_neg htarget, if_neg htarget]
            exact ihLinks links (Nat.lt_succ_self links) ((h.append_left left).append_left _)

/-- An outcome if only a directory will do. -/
def onlyDirectory (fs : FileSystem) : Except FileFault Place → Except FileFault Place
  | .ok place => if fs.isDirAt place then .ok place else .error .notADirectory
  | .error fault => .error fault

/-- A step nowhere at the end asks for a directory. -/
theorem existing_walk_here (fs : FileSystem) (links : Nat) (p : Place) (steps : List Step) :
    (fs.walk none links p (steps ++ [.here])).existing =
      fs.onlyDirectory (fs.walk none links p steps).existing := by
  cases h : (fs.walk none links p steps).existing with
  | error fault => exact existing_walk_append h (by simp)
  | ok q =>
    obtain ⟨left, -, hleft⟩ := exists_walk_append (Destination.existing_eq_ok_iff.1 h)
    rw [hleft, onlyDirectory, walk_eq_walkOn]
    by_cases hd : fs.isDirAt q = true
    · rw [advance_here none hd, if_pos hd]
      rfl
    · rw [advance_none_of_not_isDirAt (by simpa using hd), if_neg hd]
      rfl

theorem onlyDirectory_onlyDirectory (fs : FileSystem) (outcome : Except FileFault Place) :
    fs.onlyDirectory (fs.onlyDirectory outcome) = fs.onlyDirectory outcome := by
  cases outcome with
  | error fault => rfl
  | ok place =>
    unfold onlyDirectory
    by_cases hd : fs.isDirAt place = true <;> simp [hd]

/-- What steps come to is told by those that go somewhere, and by whether the last one does. -/
theorem existing_walk_moves (fs : FileSystem) (links : Nat) (p : Place) (steps : List Step) :
    (fs.walk none links p steps).existing =
      if steps.getLast? = some .here then
        fs.onlyDirectory (fs.walk none links p (Path.moves steps)).existing
      else (fs.walk none links p (Path.moves steps)).existing := by
  induction steps using List.reverseRecOn with
  | nil => rfl
  | append_singleton init last ih =>
    by_cases hlast : last = .here
    · subst hlast
      have hends : (init ++ [Step.here]).getLast? = some .here := List.getLast?_concat
      rw [existing_walk_here, ih, if_pos hends, Path.moves_append]
      have hnothing : Path.moves [.here] = [] := rfl
      rw [hnothing, List.append_nil]
      split_ifs
      · rw [onlyDirectory_onlyDirectory]
      · rfl
    · have hne : (init ++ [last]).getLast? ≠ some .here := by simpa using hlast
      rw [if_neg hne, (walk_trimmed (.moves hne)).resolve_right fun h => h.1 rfl]

/-- The steps of a walk that ends somewhere lead there without those that go nowhere. -/
theorem walk_moves_of_found (h : fs.walk limit links p steps = .found q) :
    fs.walk limit links p (Path.moves steps) = .found q := by
  induction steps using List.reverseRecOn generalizing q with
  | nil => exact h
  | append_singleton init last ih =>
    by_cases hlast : last = .here
    · subst hlast
      have hnothing : Path.moves [.here] = [] := rfl
      rw [Path.moves_append, hnothing, List.append_nil]
      cases hinit : (fs.walk limit links p init).existing with
      | error fault =>
        have hfailed : (fs.walk limit links p (init ++ [.here])).existing = .error fault :=
          existing_walk_append hinit (by simp)
        rw [h] at hfailed
        cases hfailed
      | ok place =>
        have hfound := Destination.existing_eq_ok_iff.1 hinit
        obtain ⟨left, -, hleft⟩ := exists_walk_append hfound
        rw [hleft, walk_eq_walkOn] at h
        by_cases hd : fs.isDirAt place = true
        · rw [advance_here limit hd] at h
          obtain rfl := Destination.found.inj h
          exact ih hfound
        · obtain ⟨fault, ha⟩ := advance_of_not_isDirAt limit (by simpa using hd) .here []
          rw [ha] at h
          cases h
    · have hne : (init ++ [last]).getLast? ≠ some .here := by simpa using hlast
      have hcases : fs.walk limit links p (init ++ [last]) =
            fs.walk limit links p (Path.moves (init ++ [last])) ∨
          limit ≠ none ∧ ∃ fault, fs.walk limit links p (init ++ [last]) = .failed fault :=
        walk_trimmed (.moves hne)
      rcases hcases with hsame | ⟨-, fault, hfailed⟩
      · rw [← hsame]
        exact h
      · rw [hfailed] at h
        cases h

end FileSystem

end ImageBuild
