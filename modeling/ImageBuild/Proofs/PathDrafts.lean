import ImageBuild.Proofs.PathSteps

/-!
# Paths that are written name by name

A `Path.Draft` is the text of names in the making, with a count of the names beside it: a name is
pushed behind a slash, and popped by cutting the text. As long as the count is right a pop takes off
what the last push has written (`pop_holding`), and what is written along some steps are the names
that `Path.cancel` leaves of them (`run_holding`).
-/

namespace ImageBuild

namespace Path

variable {rooted : Bool} {n : Name} {names : List Name} {steps : List Step}

/-- A name is written behind other names and a slash, but behind nothing, or the root, without
one. -/
theorem joinText_ofNames (h : ∀ n ∈ names, IsName n) (hn : IsName n) :
    joinText (ofNames rooted names).text n = (ofNames rooted (names ++ [n])).text := by
  have hstarts : n.startsWith "/" = false :=
    Text.startsWith_slash_eq_false (List.append_nil _).symm hn.1 hn.2.2.2
  by_cases hne : names = []
  · subst hne
    have hbare : ((ofNames rooted []).text = "" ||
        (ofNames rooted []).text.endsWith "/") = true := by
      cases rooted <;> decide +kernel
    unfold joinText
    rw [if_neg (by simp [hstarts]), if_pos hbare]
    simp [text_ofNames]
  · rw [joinText_text_ofNames h hne hstarts, text_ofNames, text_ofNames,
      String.intercalate_append_of_ne_nil hne (List.cons_ne_nil n [])]
    simp [String.append_assoc]

/-- The text of a path without the last step of it. -/
def parentText (s : String) : String :=
  match (ofText s).parent? with
  | none => s
  | some dir => dir.text

/-- The text of a path that is being written, and how many names are said to be in it. -/
structure Draft where
  text : String
  depth : Nat

namespace Draft

/-- The draft of a path before any step of it. -/
def start (rooted : Bool) : Draft :=
  ⟨if rooted then "/" else "", 0⟩

/-- Writes a name. -/
def push (d : Draft) (n : Name) : Draft :=
  ⟨joinText d.text n, d.depth + 1⟩

/-- Takes the last name off. -/
def pop (d : Draft) : Draft :=
  ⟨parentText d.text, d.depth - 1⟩

/-- Writes what a step comes to, unless it leads up where the count says that there are no names. -/
def follow (d : Draft) : Step → Option Draft
  | .here => some d
  | .up => if d.depth = 0 then none else some d.pop
  | .name n => some (d.push n)

/-- Writes what some steps come to. -/
def run (d : Draft) (steps : List Step) : Option Draft :=
  steps.foldlM follow d

/-- The draft that holds names, with the right count. -/
def holding (rooted : Bool) (names : List Name) : Draft :=
  ⟨(ofNames rooted names).text, names.length⟩

theorem run_cons (d : Draft) (step : Step) (steps : List Step) :
    d.run (step :: steps) = (d.follow step).bind (·.run steps) :=
  List.foldlM_cons

theorem start_eq_holding (rooted : Bool) : start rooted = holding rooted [] := by
  cases rooted <;> rfl

theorem push_holding (h : ∀ n ∈ names, IsName n) (hn : IsName n) :
    (holding rooted names).push n = holding rooted (names ++ [n]) := by
  unfold push holding
  rw [joinText_ofNames h hn, List.length_append, List.length_singleton]

/-- What is cut off the text is the last name of it. -/
theorem pop_holding (h : ∀ m ∈ names ++ [n], IsName m) :
    (holding rooted (names ++ [n])).pop = holding rooted names := by
  have hparent : (ofNames rooted (names ++ [n])).parent? = some (ofNames rooted names) := by
    simp [ofNames, parent?, namesToSteps]
  unfold pop holding parentText
  dsimp only
  rw [ofText_ofNames h (by simp), hparent, List.length_append, List.length_singleton,
    Nat.add_sub_cancel]

/-- The draft keeps in step with the stack of names, and a step up is refused by both at once. -/
theorem run_holding (hnames : ∀ n ∈ names, IsName n) (hsteps : ∀ n, .name n ∈ steps → IsName n) :
    (holding rooted names.reverse).run steps =
      (cancel names steps).map fun left => holding rooted left.reverse := by
  -- along the steps, with any stack: what the draft holds is the stack from its bottom up
  fun_induction cancel names steps with
  | case1 => rfl
  | case2 names steps ih =>
    exact ih hnames fun n hn => hsteps n (List.mem_cons_of_mem _ hn)
  | case3 => rfl
  | case4 n names steps ih =>
    have hpop : (holding rooted (n :: names).reverse).pop = holding rooted names.reverse := by
      rw [List.reverse_cons]
      exact pop_holding (by simpa [or_imp, forall_and, and_comm] using hnames)
    rw [run_cons, follow, if_neg (by simp [holding]), Option.bind_some, hpop]
    exact ih (fun m hm => hnames m (List.mem_cons_of_mem _ hm))
      fun m hm => hsteps m (List.mem_cons_of_mem _ hm)
  | case5 names n steps ih =>
    have hn := hsteps n List.mem_cons_self
    rw [run_cons, follow, Option.bind_some, push_holding (by simpa using hnames) hn,
      ← List.reverse_cons]
    exact ih (List.forall_mem_cons.2 ⟨hn, hnames⟩)
      fun m hm => hsteps m (List.mem_cons_of_mem _ hm)

/-- What is written along the steps of a path are the names left of them. -/
theorem run_start (rooted : Bool) (h : ∀ n, .name n ∈ steps → IsName n) :
    (start rooted).run steps = (Path.mk rooted steps).names?.map (holding rooted) := by
  have hrun : (holding rooted [].reverse).run steps = _ :=
    run_holding (List.forall_mem_nil IsName) h
  rw [start_eq_holding, names?, Option.map_map]
  exact hrun

end Draft

end Path

end ImageBuild
