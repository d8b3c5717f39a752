import ImageBuild.Proofs.PathText

/-!
# The steps of paths

`Path.cancel` is a stack machine: steps can be taken in two parts (`cancel_append`), what they leave
does not depend on the names below (`cancel_frame`), and a name that is left over, or undone, stands
before steps that come to nothing (`exists_of_cancel_cons`, `mem_or_undone_of_cancel`). Steps
nowhere do not matter to it, so that of a text behind another one only the parts of both count
(`moves_joinText`).
-/

namespace ImageBuild

/-! ## Parts of texts -/

theorem Text.split_append {α : Type} [DecidableEq α] (sep : α) (xs ys : List α) :
    split sep (xs ++ sep :: ys) = split sep xs ++ split sep ys := by
  induction xs with
  | nil => simp [split]
  | cons x xs ih =>
    rw [List.cons_append, split, split, ih]
    by_cases hx : x = sep
    · rw [if_pos hx, if_pos hx, List.cons_append]
    · rw [if_neg hx, if_neg hx]
      cases hsplit : split sep xs with
      | nil => exact absurd hsplit (split_ne_nil sep xs)
      | cons part parts => rfl

/-- No part between separators holds a separator. -/
theorem Text.not_mem_of_mem_split {α : Type} [DecidableEq α] {sep : α} {xs part : List α}
    (h : part ∈ split sep xs) : sep ∉ part := by
  induction xs generalizing part with
  | nil => simp [List.mem_singleton.1 h]
  | cons x xs ih =>
    unfold split at h
    split_ifs at h with hx
    · rcases List.mem_cons.1 h with rfl | h
      · exact List.not_mem_nil
      · exact ih h
    · rcases hsplit : split sep xs with _ | ⟨first, rest⟩
      · exact absurd hsplit (split_ne_nil sep xs)
      · rw [hsplit] at h ih
        rcases List.mem_cons.1 h with rfl | h
        · exact List.not_mem_cons_of_ne_of_not_mem (Ne.symm hx) (ih List.mem_cons_self)
        · exact ih (List.mem_cons_of_mem first h)

theorem Text.not_mem_of_mem_splitText {sep : Char} {s part : String}
    (h : part ∈ splitText sep s) : sep ∉ part.toList := by
  obtain ⟨cs, hcs, rfl⟩ := List.mem_map.1 h
  rw [String.toList_ofList]
  exact not_mem_of_mem_split hcs

theorem Text.splitText_append (sep : Char) (a b : String) :
    splitText sep (a ++ String.singleton sep ++ b) = splitText sep a ++ splitText sep b := by
  have hlist : (a ++ String.singleton sep ++ b).toList = a.toList ++ sep :: b.toList := by simp
  unfold splitText
  rw [hlist, split_append, List.map_append]

theorem Text.splitText_slash (a b : String) :
    splitText '/' (a ++ "/" ++ b) = splitText '/' a ++ splitText '/' b :=
  splitText_append '/' a b

theorem Text.exists_of_endsWith_slash {s : String} (h : s.endsWith "/" = true) :
    ∃ front, s = front ++ "/" := by
  rw [← String.endsWith_toSlice, String.Slice.endsWith_string_iff, String.copy_toSlice] at h
  obtain ⟨front, hfront⟩ := h
  refine ⟨String.ofList front, String.toList_injective ?_⟩
  rw [← hfront]
  simp

/-- The characters of a list but the separator are those of its parts. -/
theorem Text.exists_mem_split_iff {α : Type} [DecidableEq α] {sep a : α} (ha : a ≠ sep)
    (xs : List α) : (∃ part ∈ split sep xs, a ∈ part) ↔ a ∈ xs := by
  induction xs with
  | nil => simp [split]
  | cons x xs ih =>
    rw [split, List.mem_cons]
    by_cases hx : x = sep
    · rw [if_pos hx, List.exists_mem_cons_iff, ih]
      simp [hx, ha]
    · cases hsplit : split sep xs with
      | nil => exact absurd hsplit (split_ne_nil sep xs)
      | cons part parts =>
        rw [hsplit, List.exists_mem_cons_iff] at ih
        rw [if_neg hx, List.exists_mem_cons_iff, ← ih, List.mem_cons, or_assoc]

theorem Text.exists_mem_splitText_iff {sep c : Char} (hc : c ≠ sep) (s : String) :
    (∃ part ∈ splitText sep s, c ∈ part.toList) ↔ c ∈ s.toList := by
  rw [← exists_mem_split_iff hc]
  simp [splitText]

namespace Path

variable {steps : List Step} {names left : List Name} {n : Name}

/-! ## Cancelling -/

theorem cancel_append (names : List Name) (steps rest : List Step) :
    cancel names (steps ++ rest) = (cancel names steps).bind (cancel · rest) := by
  fun_induction cancel names steps with
  | case1 => rfl
  | case2 names steps ih => rw [List.cons_append, cancel, ih]
  | case3 => rfl
  | case4 n names steps ih => rw [List.cons_append, cancel, ih]
  | case5 names n steps ih => rw [List.cons_append, cancel, ih]

/-- What steps leave lies on the names that were there before. -/
theorem cancel_frame (h : cancel names steps = some left) (below : List Name) :
    cancel (names ++ below) steps = some (left ++ below) := by
  fun_induction cancel names steps with
  | case1 names =>
    obtain rfl := Option.some.inj h
    rfl
  | case2 names steps ih => exact ih h
  | case3 => cases h
  | case4 n names steps ih => exact ih h
  | case5 names n steps ih => exact ih h

theorem mem_of_mem_cancel (h : cancel names steps = some left) {m : Name} (hm : m ∈ left) :
    m ∈ names ∨ .name m ∈ steps := by
  fun_induction cancel names steps with
  | case1 names => exact Or.inl (Option.some.inj h ▸ hm)
  | case2 names steps ih => exact (ih h).imp_right (List.mem_cons_of_mem _)
  | case3 => cases h
  | case4 steps first names ih =>
    exact (ih h).imp (List.mem_cons_of_mem _) (List.mem_cons_of_mem _)
  | case5 names m' steps ih =>
    rcases ih h with hmem | hmem
    · rcases List.mem_cons.1 hmem with rfl | hmem
      · exact Or.inr List.mem_cons_self
      · exact Or.inl hmem
    · exact Or.inr (List.mem_cons_of_mem _ hmem)

theorem cancel_names (names : List Name) (place : Place) :
    cancel names (namesToSteps place) = some (place.reverse ++ names) := by
  induction place generalizing names with
  | nil => rfl
  | cons n place ih =>
    rw [List.reverse_cons, List.append_assoc]
    exact ih (n :: names)

/-- A name that is left over, last of all, stands before steps that come to nothing. -/
theorem exists_of_cancel_cons (h : cancel [] steps = some (n :: names)) :
    ∃ before between, steps = before ++ .name n :: between ∧ cancel [] before = some names ∧
      cancel [] between = some [] := by
  -- on the number of steps, since a step up leads back to a name further in front
  induction hlength : steps.length using Nat.strongRecOn generalizing steps n names with
  | ind length ih =>
    rcases List.eq_nil_or_concat steps with rfl | ⟨init, last, rfl⟩
    · cases h
    · rw [List.concat_eq_append, List.length_append, List.length_singleton] at hlength
      rw [List.concat_eq_append, cancel_append] at h
      obtain ⟨stack, hstack, hlast⟩ := Option.bind_eq_some_iff.1 h
      rw [List.concat_eq_append]
      cases last with
      | here =>
        obtain rfl : stack = n :: names := Option.some.inj hlast
        obtain ⟨before, between, rfl, hbefore, hbetween⟩ := ih _ (by omega) hstack rfl
        refine ⟨before, between ++ [.here], by simp, hbefore, ?_⟩
        rw [cancel_append, hbetween]
        rfl
      | name m =>
        obtain ⟨rfl, rfl⟩ : m = n ∧ stack = names := List.cons.inj (Option.some.inj hlast)
        exact ⟨init, [], rfl, hstack, rfl⟩
      | up =>
        rcases stack with _ | ⟨m, stack⟩
        · cases hlast
        · obtain rfl : stack = n :: names := Option.some.inj hlast
          obtain ⟨front, undone, rfl, hfront, hundone⟩ := ih _ (by omega) hstack rfl
          rw [List.length_append] at hlength
          obtain ⟨before, between, rfl, hbefore, hbetween⟩ := ih _ (by omega) hfront rfl
          refine ⟨before, between ++ .name m :: (undone ++ [.up]), by simp, hbefore, ?_⟩
          have hover : cancel [m] undone = some [m] := cancel_frame hundone [m]
          rw [cancel_append, hbetween, Option.bind_some, cancel, cancel_append, hover]
          rfl

/-- Every name among steps is left over, or undone by a step up after it. -/
theorem mem_or_undone_of_cancel (h : cancel [] steps = some names) (hn : .name n ∈ steps) :
    n ∈ names ∨ ∃ before between after, steps = before ++ .name n :: (between ++ .up :: after) ∧
      cancel [] between = some [] := by
  induction steps using List.reverseRecOn generalizing names with
  | nil => cases hn
  | append_singleton init last ih =>
    rw [cancel_append] at h
    obtain ⟨stack, hstack, hlast⟩ := Option.bind_eq_some_iff.1 h
    by_cases hinit : .name n ∈ init
    · rcases ih hstack hinit with hmem | ⟨before, between, after, rfl, hbetween⟩
      · cases last with
        | here =>
          obtain rfl : stack = names := Option.some.inj hlast
          exact Or.inl hmem
        | name m =>
          obtain rfl : m :: stack = names := Option.some.inj hlast
          exact Or.inl (List.mem_cons_of_mem m hmem)
        | up =>
          rcases stack with _ | ⟨m, stack⟩
          · cases hlast
          · obtain rfl : stack = names := Option.some.inj hlast
            rcases List.mem_cons.1 hmem with rfl | hmem
            · obtain ⟨before, between, rfl, -, hbetween⟩ := exists_of_cancel_cons hstack
              exact Or.inr ⟨before, between, [], by simp, hbetween⟩
            · exact Or.inl hmem
      · exact Or.inr ⟨before, between, after ++ [last], by simp, hbetween⟩
    · obtain rfl : .name n = last := by simpa [hinit] using hn
      obtain rfl : n :: stack = names := Option.some.inj hlast
      exact Or.inl List.mem_cons_self

/-! ## Steps that go somewhere -/

/-- The steps of a path but those that go nowhere. -/
def moves (steps : List Step) : List Step :=
  steps.filter (· ≠ .here)

@[simp] theorem moves_append (steps rest : List Step) :
    moves (steps ++ rest) = moves steps ++ moves rest :=
  List.filter_append ..

theorem here_not_mem_moves (steps : List Step) : .here ∉ moves steps := by
  simp [moves]

theorem moves_namesToSteps (place : Place) : moves (namesToSteps place) = namesToSteps place :=
  List.filter_eq_self.2 fun step hstep => by
    obtain ⟨name, -, rfl⟩ := List.mem_map.1 hstep
    rfl

theorem cancel_moves (names : List Name) (steps : List Step) :
    cancel names (moves steps) = cancel names steps := by
  fun_induction cancel names steps with
  | case1 => rfl
  | case2 names steps ih => exact ih
  | case3 => rfl
  | case4 n names steps ih => exact ih
  | case5 names n steps ih => exact ih

/-- The step that a part of a text takes, if it goes somewhere. -/
def moveOfPart? (part : String) : Option Step :=
  if part = "" ∨ part = "." then none else some (Step.ofText part)

theorem moves_stepsOfParts (parts : List String) :
    moves (stepsOfParts parts) = parts.filterMap moveOfPart? := by
  have hpart : ∀ part, part ≠ "" → moves [Step.ofText part] = (moveOfPart? part).toList := by
    intro part hne
    unfold moveOfPart? Step.ofText
    by_cases hdot : part = "."
    · simp [hdot, moves]
    · by_cases hdots : part = ".."
      · simp [hdots, moves]
      · simp [hne, hdot, hdots, moves]
  induction parts with
  | nil => rfl
  | cons part rest ih =>
    rw [List.filterMap_cons]
    by_cases hne : part = ""
    · subst hne
      by_cases hrest : rest = []
      · subst hrest
        decide
      · rw [stepsOfParts_empty_cons hrest, ih]
        rfl
    · by_cases hrest : rest = []
      · subst hrest
        rw [stepsOfParts, if_neg hne, hpart part hne]
        cases moveOfPart? part <;> rfl
      · rw [stepsOfParts_cons hne hrest, ← List.singleton_append, moves_append, ih, hpart part hne]
        cases moveOfPart? part <;> rfl

theorem moves_ofText (s : String) :
    moves (ofText s).steps = (Text.splitText '/' s).filterMap moveOfPart? := by
  unfold ofText
  split_ifs with hs
  · subst hs
    rfl
  · exact moves_stepsOfParts _

theorem name_mem_moves_iff {s : String} : .name n ∈ moves (ofText s).steps ↔
    n ∈ Text.splitText '/' s ∧ n ≠ "" ∧ n ≠ "." ∧ n ≠ ".." := by
  have hpart : ∀ part, moveOfPart? part = some (.name n) ↔
      part = n ∧ n ≠ "" ∧ n ≠ "." ∧ n ≠ ".." := by
    intro part
    unfold moveOfPart? Step.ofText
    constructor
    · intro h
      split_ifs at h with hnone hdot hdots
      · cases h
      · cases h
      · cases h
        exact ⟨rfl, fun h => hnone (Or.inl h), hdot, hdots⟩
    · rintro ⟨rfl, hempty, hdot, hdots⟩
      simp [hempty, hdot, hdots]
  simp only [moves_ofText, List.mem_filterMap, hpart]
  constructor
  · rintro ⟨part, hmem, rfl, h⟩
    exact ⟨hmem, h⟩
  · rintro ⟨hmem, h⟩
    exact ⟨n, hmem, rfl, h⟩

/-- The characters of a text but slashes and dots are those of the names in it. -/
theorem mem_toList_iff {c : Char} (hslash : c ≠ '/') (hdot : c ≠ '.') (s : String) :
    c ∈ s.toList ↔ ∃ n, .name n ∈ moves (ofText s).steps ∧ c ∈ n.toList := by
  simp only [name_mem_moves_iff]
  rw [← Text.exists_mem_splitText_iff hslash]
  constructor
  · rintro ⟨part, hmem, hc⟩
    refine ⟨part, ⟨hmem, ?_, ?_, ?_⟩, hc⟩
    · rintro rfl
      cases hc
    · rintro rfl
      simp [hdot] at hc
    · rintro rfl
      simp [hdot] at hc
  · rintro ⟨n, ⟨hmem, -⟩, hc⟩
    exact ⟨n, hmem, hc⟩

theorem isName_of_mem_moves {s : String} (h : .name n ∈ moves (ofText s).steps) : IsName n := by
  obtain ⟨hpart, hempty, hdot, hdots⟩ := name_mem_moves_iff.1 h
  exact ⟨hempty, hdot, hdots, Text.not_mem_of_mem_splitText hpart⟩

theorem isName_of_mem_ofText {s : String} (h : .name n ∈ (ofText s).steps) : IsName n :=
  isName_of_mem_moves (s := s) (List.mem_filter.2 ⟨h, rfl⟩)

/-- The names that are left of a path are names of its steps. -/
theorem isName_of_names? {p : Path} (h : p.names? = some names)
    (hp : ∀ n, .name n ∈ p.steps → IsName n) : ∀ n ∈ names, IsName n := by
  obtain ⟨back, hback, rfl⟩ := Option.map_eq_some_iff.1 h
  intro n hn
  rcases mem_of_mem_cancel hback (List.mem_reverse.1 hn) with hnil | hstep
  · cases hnil
  · exact hp n hstep

/-- The text of names goes by these names. -/
theorem moves_text {place : Place} (h : ∀ n ∈ place, IsName n) :
    moves (ofText place.text).steps = namesToSteps place := by
  by_cases hne : place = []
  · subst hne
    decide +kernel
  · rw [place.text_eq_ofNames, ofText_ofNames h hne]
    exact moves_namesToSteps place

theorem rooted_ofText (s : String) : (ofText s).rooted = s.startsWith "/" := by
  unfold ofText
  split_ifs with hs
  · subst hs
    decide +kernel
  · rfl

variable {base extension : String}

theorem joinText_of_startsWith (h : extension.startsWith "/" = true) :
    joinText base extension = extension := by
  unfold joinText
  rw [if_pos h]

/-- A text behind another one goes on with its own parts. -/
theorem moves_joinText (base : String) (h : extension.startsWith "/" = false) :
    moves (ofText (joinText base extension)).steps =
      moves (ofText base).steps ++ moves (ofText extension).steps := by
  rw [moves_ofText, moves_ofText, moves_ofText, ← List.filterMap_append]
  unfold joinText
  rw [if_neg (by simp [h])]
  by_cases hempty : base = ""
  · subst hempty
    rw [if_pos (by simp), String.empty_append]
    rfl
  · by_cases hends : base.endsWith "/" = true
    · obtain ⟨front, rfl⟩ := Text.exists_of_endsWith_slash hends
      have hfront : Text.splitText '/' (front ++ "/") = Text.splitText '/' front ++ [""] := by
        have hslash := Text.splitText_slash front ""
        rwa [String.append_empty] at hslash
      rw [if_pos (by simp [hends]), Text.splitText_slash, hfront, List.filterMap_append,
        List.filterMap_append, List.filterMap_append]
      simp [moveOfPart?]
    · rw [if_neg (by simp [hempty, hends]), Text.splitText_slash]

theorem rooted_joinText (base : String) (h : extension.startsWith "/" = false) :
    (ofText (joinText base extension)).rooted = (ofText base).rooted := by
  rw [rooted_ofText, rooted_ofText]
  unfold joinText
  rw [if_neg (by simp [h])]
  by_cases hbase : base = ""
  · subst hbase
    rw [if_pos (by simp), String.empty_append, h]
    decide +kernel
  · obtain ⟨c, cs, hcs⟩ := List.exists_cons_of_ne_nil (show base.toList ≠ [] by simpa using hbase)
    have hstarts : ∀ back : String, (base ++ back).startsWith "/" = base.startsWith "/" := by
      intro back
      rw [Bool.eq_iff_iff, String.startsWith_string_iff, String.startsWith_string_iff,
        String.toList_append, hcs]
      simp
    split_ifs
    · exact hstarts extension
    · rw [String.append_assoc]
      exact hstarts _

theorem join_of_not_rooted (p : Path) {q : Path} (hq : q.rooted = false) :
    p.join q = ⟨p.rooted, p.steps ++ q.steps⟩ := by
  unfold join
  rw [if_neg (by simp [hq])]

end Path

end ImageBuild
