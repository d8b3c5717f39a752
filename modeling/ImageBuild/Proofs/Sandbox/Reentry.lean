import ImageBuild.Proofs.Sandbox.Verdicts
import Mathlib.Data.Int.Basic
import Mathlib.Data.List.Infix

/-!
# Texts that leave the root and come back

A dockerfile text goes down by its names and up by its steps up. `Path.fall` is how far it ever gets
above its start, and `Path.survivors` are the names that no step up undoes; what is left when every
name is cancelled with the step up that undoes it is made of these two (`Path.cancels_residue`).
They decide what a stack of names becomes (`Path.cancel_eq_ite`): a text stays inside of a root if
and only if it comes back by the very names of the root that it undid (`judged_by_text`).
-/

namespace ImageBuild

/-- What a step adds to the number of names gone down. -/
def Step.weight : Step → Int
  | .here => 0
  | .up => -1
  | .name _ => 1

namespace Path

variable {steps rest steps' : List Step} {n : Name}

/-- The number of names among steps less that of the steps up. -/
def count : List Step → Int
  | [] => 0
  | step :: steps => step.weight + count steps

/-- How far the count ever falls below zero on the way along some steps. -/
def fall (steps : List Step) : Nat :=
  (steps.inits.map fun walked => (-count walked).toNat).foldr max 0

/-- The names among steps that no step up behind them undoes: from there on the count never falls
below zero. -/
def survivors : List Step → List Name
  | [] => []
  | .name n :: rest => if fall rest = 0 then n :: survivors rest else survivors rest
  | .here :: rest => survivors rest
  | .up :: rest => survivors rest

/-! ## How far steps fall -/

theorem count_cons (step : Step) (rest : List Step) :
    count (step :: rest) = step.weight + count rest := rfl

theorem foldr_max_le_iff {ks : List Nat} {k : Nat} : ks.foldr max 0 ≤ k ↔ ∀ i ∈ ks, i ≤ k := by
  induction ks with
  | nil => simp
  | cons i ks ih => rw [List.foldr_cons, Nat.max_le, ih, List.forall_mem_cons]

theorem fall_le_iff {k : Nat} :
    fall steps ≤ k ↔ ∀ walked, walked <+: steps → -count walked ≤ k := by
  simp [fall, foldr_max_le_iff]

theorem fall_cons (step : Step) (rest : List Step) :
    fall (step :: rest) = (fall rest - step.weight).toNat := by
  refine eq_of_forall_ge_iff fun k => ?_
  rw [Int.toNat_le, fall_le_iff]
  constructor
  · intro h
    have hstep := h [step] (by simp)
    rw [count_cons] at hstep
    have hrest : fall rest ≤ (k + step.weight).toNat := by
      refine fall_le_iff.2 fun walked hwalked => ?_
      have hlonger := h (step :: walked) (by simpa using hwalked)
      rw [count_cons] at hlonger
      omega
    simp only [count] at hstep
    omega
  · intro h walked hwalked
    rcases List.prefix_cons_iff.1 hwalked with rfl | ⟨walked, rfl, hrest⟩
    · simp [count]
    · have hle := fall_le_iff.1 (le_refl (fall rest)) walked hrest
      rw [count_cons]
      omega

@[simp] theorem fall_nil : fall [] = 0 := rfl

@[simp] theorem fall_here (rest : List Step) : fall (.here :: rest) = fall rest := by
  rw [fall_cons, Step.weight]
  omega

@[simp] theorem fall_up (rest : List Step) : fall (.up :: rest) = fall rest + 1 := by
  rw [fall_cons, Step.weight]
  omega

@[simp] theorem fall_name (n : Name) (rest : List Step) :
    fall (.name n :: rest) = fall rest - 1 := by
  rw [fall_cons, Step.weight]
  omega

theorem fall_moves (steps : List Step) : fall (moves steps) = fall steps := by
  induction steps with
  | nil => rfl
  | cons step rest ih =>
    cases step with
    | here => exact ih.trans (fall_here rest).symm
    | up =>
      change fall (.up :: moves rest) = _
      rw [fall_up, fall_up, ih]
    | name n =>
      change fall (.name n :: moves rest) = _
      rw [fall_name, fall_name, ih]

theorem survivors_moves (steps : List Step) : survivors (moves steps) = survivors steps := by
  induction steps with
  | nil => rfl
  | cons step rest ih =>
    cases step with
    | here => exact ih
    | up => exact ih
    | name n =>
      change survivors (.name n :: moves rest) = _
      rw [survivors, survivors, fall_moves, ih]

/-! ## Cancelling -/

/-- One step nowhere is left out, or one name and the step up right behind it. -/
inductive Cancels : List Step → List Step → Prop
  | here (before after : List Step) : Cancels (before ++ .here :: after) (before ++ after)
  | pair (before : List Step) (n : Name) (after : List Step) :
      Cancels (before ++ .name n :: .up :: after) (before ++ after)

theorem Cancels.cons (h : Cancels steps steps') (step : Step) :
    Cancels (step :: steps) (step :: steps') := by
  cases h with
  | here before after => exact .here (step :: before) after
  | pair before n after => exact .pair (step :: before) n after

/-- Cancelling leaves as many steps up as the count falls, and behind them the names that
survive. -/
theorem cancels_residue (steps : List Step) : Relation.ReflTransGen Cancels steps
    (List.replicate (fall steps) .up ++ namesToSteps (survivors steps)) := by
  induction steps with
  | nil => exact .refl
  | cons step rest ih =>
    have hrest := ih.lift (step :: ·) fun _ _ h => Cancels.cons h step
    cases step with
    | here =>
      rw [fall_here, survivors]
      exact hrest.tail (.here [] _)
    | up =>
      rw [fall_up, survivors, List.replicate_succ]
      exact hrest
    | name n =>
      rw [fall_name, survivors]
      rcases hfall : fall rest with _ | k
      · rw [hfall] at hrest
        exact hrest
      · -- the first step up that is left over undoes the name
        rw [hfall, List.replicate_succ] at hrest
        exact hrest.tail (.pair [] n _)

/-- Cancelling takes as many names away as the count falls, and adds those that survive. -/
theorem cancel_eq_ite (names : List Name) (steps : List Step) : cancel names steps =
    if fall steps ≤ names.length
      then some ((survivors steps).reverse ++ names.drop (fall steps)) else none := by
  fun_induction cancel names steps with
  | case1 names => simp [survivors]
  | case2 names steps ih => rw [ih, fall_here, survivors]
  | case3 steps => simp
  | case4 n names steps ih => simp [ih, survivors]
  | case5 names n steps ih =>
    rw [ih, fall_name, survivors, List.length_cons]
    rcases fall steps with _ | k <;> simp

/-- A path behind a place undoes as many names of it as its count falls, if there are as many. -/
theorem names?_behind (place : Place) {path : Path} (h : path.rooted = false) :
    ((ofPlace place).join path).names? =
      if fall path.steps ≤ place.length
        then some (place.take (place.length - fall path.steps) ++ survivors path.steps)
        else none := by
  have hsteps : ((ofPlace place).join path).steps = namesToSteps place ++ path.steps :=
    congrArg Path.steps (join_of_not_rooted _ h)
  unfold names?
  rw [hsteps, cancel_append, cancel_names, Option.bind_some, List.append_nil, cancel_eq_ite,
    List.length_reverse]
  split_ifs
  · rw [Option.map_some, List.reverse_append, List.reverse_reverse, List.drop_reverse,
      List.reverse_reverse]
  · rfl

end Path

/-! ## The verdict by the text alone -/

/-- A list goes on from its beginning inside of itself if and only if what is missing follows. -/
theorem prefix_take_append_iff {α : Type} {xs ys : List α} {k : Nat} (hk : k ≤ xs.length) :
    xs <+: xs.take (xs.length - k) ++ ys ↔ ys.take k = xs.drop (xs.length - k) := by
  have hlength : (xs.drop (xs.length - k)).length = k := by
    rw [List.length_drop]
    omega
  have hsplit : xs <+: xs.take (xs.length - k) ++ ys ↔
      xs.take (xs.length - k) ++ xs.drop (xs.length - k) <+: xs.take (xs.length - k) ++ ys := by
    rw [List.take_append_drop]
  rw [hsplit, List.prefix_append_right_inj, List.prefix_iff_eq_take, hlength, eq_comm]

namespace Sandbox

open ImageBuild.Path

variable {root place : Place} {file : String}

theorem candidate?_behind (h : (Path.ofText file).rooted = false) :
    candidate? root file =
      if fall (Path.ofText file).steps ≤ root.length ∧
          (survivors (Path.ofText file).steps).take (fall (Path.ofText file).steps) =
            root.drop (root.length - fall (Path.ofText file).steps)
        then some (root.take (root.length - fall (Path.ofText file).steps) ++
          survivors (Path.ofText file).steps)
        else none := by
  unfold candidate?
  rw [names?_behind root h]
  by_cases hfall : fall (Path.ofText file).steps ≤ root.length
  · rw [if_pos hfall]
    simp only [List.isPrefixOf_iff_prefix, prefix_take_append_iff hfall, hfall, true_and]
  · rw [if_neg hfall, if_neg fun h => hfall h.1]

theorem normal?_eq_none_iff {path : Path} : path.normal? = none ↔ path.names? = none :=
  Option.map_eq_none_iff

/-- The steps of a text that goes up and down again first of all. -/
theorem moves_sibling {name : Name} (hname : IsName name) (below : String) :
    moves (Path.ofText ("../" ++ name ++ "/" ++ below)).steps =
      .up :: .name name :: moves (Path.ofText below).steps := by
  obtain ⟨hempty, hdot, hdots, hslash⟩ := hname
  have hname : Text.splitText '/' name = [name] := by
    have hsplit : Text.splitText '/' ((String.singleton '/').intercalate [name]) = [name] :=
      Text.splitText_intercalate (by simpa using hslash) (List.cons_ne_nil _ _)
    simpa using hsplit
  have hup : Text.splitText '/' ("../" ++ name) = ["..", name] := by
    have hsplit := Text.splitText_slash ".." name
    rw [hname] at hsplit
    exact hsplit
  rw [moves_ofText, moves_ofText, Text.splitText_slash, List.filterMap_append, hup]
  simp [moveOfPart?, Step.ofText, hempty, hdot, hdots]

/-- What the text of a relative path comes to behind a root, whatever there is in the file system:
`depth` is how far the text climbs above the root, `left` are the names that it does not undo. -/
structure JudgedByText (root : Place) (file : String) (depth : Nat) (left : List Name) : Prop where
  /-- Cancelling every name with the step up that undoes it leaves steps up and then names. -/
  residue : Relation.ReflTransGen Cancels (Path.ofText file).steps
    (List.replicate depth .up ++ namesToSteps left)
  /-- The text passes if it does not leave the root, or comes back by the names it left it by. -/
  passes_iff : (candidate? root file).isSome ↔
    depth = 0 ∨ depth ≤ root.length ∧ left.take depth = root.drop (root.length - depth)
  place : ∀ place, candidate? root file = some place →
    place = root.take (root.length - depth) ++ left
  /-- There is a place at all unless the text climbs above the root of the file system. -/
  normal?_eq_none_iff :
    ((Path.ofPlace root).join (Path.ofText file)).normal? = none ↔ root.length < depth
  /-- What passes is looked at in the file system, and what does not is an escape. -/
  check_eq : ∀ (fs : FileSystem) (cwd : Place) (text : String), fs.canonical cwd text = .ok root →
    check fs cwd file text = match candidate? root file with
      | some place => inspect fs file root place
      | none => .error (.escape file root.text)
  /-- A text that climbs just out of the root comes back by the name of the root only. -/
  reenters_iff : ∀ parent own, root = parent ++ [own] → depth = 1 →
    ((candidate? root file).isSome ↔ left.head? = some own)
  /-- So does a text that begins by a name beside the root, whatever it goes on with below. -/
  sibling_iff : ∀ parent own name below, root = parent ++ [own] →
    file = "../" ++ name ++ "/" ++ below → IsName name → fall (Path.ofText below).steps = 0 →
    ((candidate? root file).isSome ↔ name = own)

theorem judged_by_text (root : Place) (file : String) (h : (Path.ofText file).rooted = false) :
    JudgedByText root file (fall (Path.ofText file).steps)
      (survivors (Path.ofText file).steps) := by
  have hcandidate : candidate? root file = _ := candidate?_behind h
  have hpasses : (candidate? root file).isSome ↔ fall (Path.ofText file).steps ≤ root.length ∧
      (survivors (Path.ofText file).steps).take (fall (Path.ofText file).steps) =
        root.drop (root.length - fall (Path.ofText file).steps) := by
    rw [hcandidate]
    split_ifs with hback <;> simp [hback]
  have hreenters : ∀ parent own, root = parent ++ [own] → fall (Path.ofText file).steps = 1 →
      ((candidate? root file).isSome ↔ (survivors (Path.ofText file).steps).head? = some own) := by
    rintro parent own rfl hone
    rw [hpasses, hone]
    rcases survivors (Path.ofText file).steps with _ | ⟨n, names⟩ <;> simp
  constructor
  case residue => exact cancels_residue _
  case passes_iff =>
    rw [hpasses, iff_or_self]
    intro hzero
    simp [hzero]
  case place =>
    intro place hplace
    rw [hcandidate] at hplace
    split_ifs at hplace
    exact (Option.some.inj hplace).symm
  case normal?_eq_none_iff =>
    rw [normal?_eq_none_iff, names?_behind root h]
    split_ifs with hfall
    · simpa using hfall
    · simpa using hfall
  case check_eq =>
    intro fs cwd text hroot
    unfold check
    rw [hroot]
    dsimp only
    cases candidate? root file <;> rfl
  case reenters_iff => exact hreenters
  case sibling_iff =>
    rintro parent own name below hroot rfl hname hbelow
    have hmoves := moves_sibling hname below
    have hfall : fall (Path.ofText ("../" ++ name ++ "/" ++ below)).steps = 1 := by
      rw [← fall_moves, hmoves, fall_up, fall_name, fall_moves, hbelow]
    rw [hreenters parent own hroot hfall, ← survivors_moves, hmoves, survivors, survivors,
      fall_moves, if_pos hbelow, List.head?_cons, Option.some.injEq]

theorem judged_by_text_reentered :
    let file := "sub/../../ctx/./Dockerfile"
    (Path.ofText file).rooted = false ∧
      JudgedByText ["srv", "ctx"] file 1 ["ctx", "Dockerfile"] ∧
      candidate? ["srv", "ctx"] file = some ["srv", "ctx", "Dockerfile"] ∧
      candidate? ["srv", "ctx"] "../ctx-evil/Dockerfile" = none := by
  intro file
  have hrelative : (Path.ofText file).rooted = false := by decide +kernel
  have hfall : fall (Path.ofText file).steps = 1 := by decide +kernel
  have hleft : survivors (Path.ofText file).steps = ["ctx", "Dockerfile"] := by decide +kernel
  have hjudged := judged_by_text ["srv", "ctx"] file hrelative
  rw [hfall, hleft] at hjudged
  exact ⟨hrelative, hjudged, by decide +kernel, by decide +kernel⟩

end Sandbox

end ImageBuild
