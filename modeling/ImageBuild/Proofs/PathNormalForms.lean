import ImageBuild.Proofs.PathDrafts
import ImageBuild.Proofs.Sandbox.Reentry

/-!
# Normal forms of paths

A path that never climbs above its start has a normal form: the names that are left when every name
is cancelled with the step up that undoes it (`names?_eq_some_iff_cancels`). Only these names matter
to what comes behind a path (`normal?_join`). A draft holds them at the end of the steps, and a pop
on the way takes off what the last push has left (`exists_push_of_run`). `normalises` says all this of
the path of every text.
-/

namespace ImageBuild

/-- Whether a step goes down, to a name. -/
def Step.isDown : Step → Bool
  | .name _ => true
  | _ => false

namespace Path

variable {p p' q r : Path} {s : String} {rooted : Bool} {names : List Name}
  {steps steps' : List Step}

/-! ## Paths behind normal forms -/

theorem normal?_eq_some_iff :
    p.normal? = some q ↔ ∃ names, p.names? = some names ∧ ofNames p.rooted names = q :=
  Option.map_eq_some_iff

theorem names?_ofNames (rooted : Bool) (names : List Name) :
    (ofNames rooted names).names? = some names := by
  have hcancel : cancel [] (namesToSteps names) = some names.reverse := by
    rw [cancel_names, List.append_nil]
  unfold names? ofNames
  rw [hcancel, Option.map_some, List.reverse_reverse]

theorem normal?_ofNames (rooted : Bool) (names : List Name) :
    (ofNames rooted names).normal? = some (ofNames rooted names) :=
  normal?_eq_some_iff.2 ⟨names, names?_ofNames rooted names, rfl⟩

theorem normal?_eq_some_ofNames_iff :
    p.normal? = some (ofNames p.rooted names) ↔ p.names? = some names := by
  refine normal?_eq_some_iff.trans ⟨?_, fun h => ⟨names, h, rfl⟩⟩
  rintro ⟨names', hnames, hsame⟩
  have hback := congrArg Path.names? hsame
  rwa [names?_ofNames, names?_ofNames, ← hnames] at hback

/-- Only where a path starts and what cancelling leaves of its steps matter to its normal form. -/
theorem normal?_congr (hrooted : p.rooted = p'.rooted)
    (h : cancel [] p.steps = cancel [] p'.steps) : p.normal? = p'.normal? := by
  unfold normal? names?
  rw [hrooted, h]

/-- A path goes on from its normal form as it goes on itself. -/
theorem normal?_join (h : p.normal? = some q) (hr : r.rooted = false) :
    (p.join r).normal? = (q.join r).normal? := by
  obtain ⟨names, hnames, rfl⟩ := normal?_eq_some_iff.1 h
  obtain ⟨back, hback, rfl⟩ := Option.map_eq_some_iff.1 hnames
  rw [join_of_not_rooted _ hr, join_of_not_rooted _ hr]
  refine normal?_congr rfl ?_
  unfold ofNames
  rw [cancel_append, cancel_append, hback, cancel_names, List.reverse_reverse, List.append_nil]

/-! ## Paths without a normal form -/

theorem count_eq (steps : List Step) :
    count steps = steps.countP Step.isDown - steps.count .up := by
  induction steps with
  | nil => rfl
  | cons step rest ih =>
    rw [count_cons, ih]
    cases step with
    | here => simp [Step.weight, Step.isDown]
    | up =>
      rw [List.countP_cons_of_neg (by simp [Step.isDown]), List.count_cons_self, Step.weight]
      omega
    | name n =>
      rw [List.countP_cons_of_pos rfl, List.count_cons_of_ne (by simp), Step.weight]
      omega

/-- The names of a normal form are those that survive, and there is one if the steps never climb
above their start. -/
theorem names?_eq_ite (p : Path) :
    p.names? = if fall p.steps = 0 then some (survivors p.steps) else none := by
  unfold names?
  rw [cancel_eq_ite]
  by_cases hfall : fall p.steps = 0
  · simp [hfall]
  · rw [if_neg hfall, if_neg (by simpa using hfall), Option.map_none]

theorem normal?_eq_none_iff_exists (p : Path) : p.normal? = none ↔
    ∃ walked, walked <+: p.steps ∧ walked.countP Step.isDown < walked.count .up := by
  have hfall : p.normal? = none ↔ ¬ fall p.steps ≤ 0 := by
    unfold normal?
    rw [names?_eq_ite, Nat.le_zero]
    split_ifs with h <;> simpa using h
  rw [hfall, fall_le_iff]
  push Not
  refine exists_congr fun walked => and_congr_right fun _ => ?_
  rw [count_eq]
  omega

/-! ## Normal forms by cancelling -/

theorem Cancels.cancel_eq (h : Cancels steps steps') (names : List Name) :
    cancel names steps = cancel names steps' := by
  cases h with
  | here before after =>
    rw [cancel_append, cancel_append]
    rfl
  | pair before n after =>
    rw [cancel_append, cancel_append]
    rfl

theorem cancel_eq_of_cancels (h : Relation.ReflTransGen Cancels steps steps') (names : List Name) :
    cancel names steps = cancel names steps' := by
  induction h with
  | refl => rfl
  | tail _ hstep ih => exact ih.trans (hstep.cancel_eq names)

/-- Names are left of a path if and only if cancelling can come to them, in whatever order. -/
theorem names?_eq_some_iff_cancels :
    p.names? = some names ↔ Relation.ReflTransGen Cancels p.steps (namesToSteps names) := by
  constructor
  · intro h
    have hresidue := cancels_residue p.steps
    rw [names?_eq_ite] at h
    split_ifs at h with hfall
    obtain rfl := Option.some.inj h
    rwa [hfall] at hresidue
  · intro h
    unfold names?
    rw [cancel_eq_of_cancels h, cancel_names, List.append_nil, Option.map_some,
      List.reverse_reverse]

/-! ## Normal forms of texts -/

/-- No dots stand alone between the slashes of the text of names. -/
theorem not_dots_of_mem_splitText (h : ∀ n ∈ names, IsName n) {part : String}
    (hpart : part ∈ Text.splitText '/' (ofNames rooted names).text) : part ≠ "." ∧ part ≠ ".." := by
  have hmem : part = "" ∨ part ∈ names := by
    by_cases hne : names = []
    · subst hne
      refine Or.inl ?_
      cases rooted <;> simpa [text_ofNames, Text.splitText, Text.split] using hpart
    · rw [splitText_ofNames h hne] at hpart
      split_ifs at hpart
      · exact List.mem_cons.1 hpart
      · exact Or.inr hpart
  rcases hmem with rfl | hname
  · decide
  · exact ⟨(h part hname).2.1, (h part hname).2.2.1⟩

theorem normal?_text_ofNames (h : ∀ n ∈ names, IsName n) :
    (ofText (ofNames rooted names).text).normal? = some (ofNames rooted names) := by
  by_cases hne : names = []
  · subst hne
    cases rooted <;> decide +kernel
  · rw [ofText_ofNames h hne, normal?_ofNames]

/-- A text comes behind another one as its path comes behind the other path. -/
theorem normal?_joinText (s : String) {t : String} (ht : t.startsWith "/" = false) :
    (ofText (joinText s t)).normal? = ((ofText s).join (ofText t)).normal? := by
  rw [join_of_not_rooted _ ((rooted_ofText t).trans ht)]
  refine normal?_congr (rooted_joinText s ht) ?_
  rw [← cancel_moves, moves_joinText s ht, ← moves_append, cancel_moves]

/-- What a path promises that is the normal form of the path of a text. -/
structure NormalForm (s : String) (q : Path) : Prop where
  /-- It goes down by names, from where the path of the text starts. -/
  named : ∃ names, q = ofNames (ofText s).rooted names ∧ ∀ n ∈ names, IsName n
  /-- In its text there are no steps up and steps nowhere either. -/
  parts : ∀ part ∈ Text.splitText '/' q.text, part ≠ "." ∧ part ≠ ".."
  startsWith : q.text.startsWith "/" = s.startsWith "/"
  again : (ofText q.text).normal? = some q
  /-- A relative text behind it has the same normal form as behind the text that it comes from, or
  none behind both. -/
  behind : ∀ t : String, t.startsWith "/" = false →
    (ofText (joinText s t)).normal? = (ofText (joinText q.text t)).normal?

theorem normalForm (h : (ofText s).normal? = some q) : NormalForm s q := by
  obtain ⟨names, hnames, rfl⟩ := normal?_eq_some_iff.1 h
  have hproper := isName_of_names? hnames fun _ => isName_of_mem_ofText
  have hagain : (ofText (ofNames (ofText s).rooted names).text).normal? = _ :=
    normal?_text_ofNames hproper
  constructor
  case named => exact ⟨names, rfl, hproper⟩
  case parts => exact fun part => not_dots_of_mem_splitText hproper
  case startsWith => rw [startsWith_ofNames hproper, rooted_ofText]
  case again => exact hagain
  case behind =>
    intro t ht
    have hrelative : (ofText t).rooted = false := (rooted_ofText t).trans ht
    rw [normal?_joinText s ht, normal?_joinText _ ht, normal?_join h hrelative,
      normal?_join hagain hrelative]

/-! ## Drafts on the way -/

section Drafts

variable {walked : List Step} {d : Draft}

theorem exists_of_run (hnames : ∀ n, .name n ∈ walked → IsName n)
    (h : (Draft.start rooted).run walked = some d) :
    ∃ names, (Path.mk rooted walked).names? = some names ∧ (∀ n ∈ names, IsName n) ∧
      d = Draft.holding rooted names := by
  rw [Draft.run_start rooted hnames] at h
  obtain ⟨names, hleft, rfl⟩ := Option.map_eq_some_iff.1 h
  exact ⟨names, hleft, isName_of_names? hleft hnames, rfl⟩

/-- A draft with names in it comes from the last push that the steps behind it have not undone, and
a pop leads back to the draft before that push. -/
theorem exists_push_of_run (hnames : ∀ n, .name n ∈ walked → IsName n)
    (h : (Draft.start rooted).run walked = some d) (hdepth : d.depth ≠ 0) :
    ∃ before n between d₀, walked = before ++ .name n :: between ∧
      Relation.ReflTransGen Cancels between [] ∧ (Draft.start rooted).run before = some d₀ ∧
      d = d₀.push n ∧ d.pop = d₀ ∧ d₀.text.startsWith "/" = rooted := by
  obtain ⟨names, hleft, hproper, rfl⟩ := exists_of_run hnames h
  obtain ⟨back, hback, rfl⟩ := Option.map_eq_some_iff.1 hleft
  rcases back with _ | ⟨n, back⟩
  · exact absurd rfl hdepth
  · -- the name on top of the stack is the one that the last push left there
    obtain ⟨before, between, rfl, hbefore, hbetween⟩ := exists_of_cancel_cons hback
    rw [List.reverse_cons] at hproper ⊢
    have hfront : ∀ m ∈ back.reverse, IsName m := fun m hm => hproper m (List.mem_append_left _ hm)
    have hnothing : (Path.mk false between).names? = some [] := by
      rw [names?, hbetween]
      rfl
    refine ⟨before, n, between, Draft.holding rooted back.reverse, rfl,
      names?_eq_some_iff_cancels.1 hnothing, ?_,
      (Draft.push_holding hfront (hproper n (by simp))).symm, Draft.pop_holding hproper,
      startsWith_ofNames hfront⟩
    rw [Draft.run_start rooted fun m hm => hnames m (List.mem_append_left _ hm), names?, hbefore]
    rfl

end Drafts

/-! ## The normal form of every text -/

/-- What normalising the path of a text comes to, as a whole and step by step. -/
structure Normalises (s : String) : Prop where
  form : ∀ q, (ofText s).normal? = some q → NormalForm s q
  /-- The names of the normal form are what cancelling can come to, in whatever order. -/
  cancels_iff : ∀ names, (ofText s).normal? = some (ofNames (ofText s).rooted names) ↔
    Relation.ReflTransGen Cancels (ofText s).steps (namesToSteps names)
  /-- There is no normal form if and only if at some point there were more steps up than names. -/
  none_iff : (ofText s).normal? = none ↔
    ∃ walked, walked <+: (ofText s).steps ∧ walked.countP Step.isDown < walked.count .up
  /-- The text of the normal form is what is written along the steps. -/
  written : ((Draft.start (ofText s).rooted).run (ofText s).steps).map Draft.text =
    (ofText s).normal?.map text
  /-- On the way the draft is the normal form of the steps walked, and its count is right. -/
  in_step : ∀ walked d, walked <+: (ofText s).steps →
    (Draft.start (ofText s).rooted).run walked = some d →
      ∃ names, (Path.mk (ofText s).rooted walked).normal? =
          some (ofNames (ofText s).rooted names) ∧
        d.text = (ofNames (ofText s).rooted names).text ∧ d.depth = names.length
  /-- A step up that is not refused takes off what the last push has written that is still there,
  since the steps behind that push cancel each other; what the path starts from stays. -/
  pops : ∀ walked d, walked ++ [.up] <+: (ofText s).steps →
    (Draft.start (ofText s).rooted).run walked = some d → d.depth ≠ 0 →
      ∃ before n between d₀, walked = before ++ .name n :: between ∧
        Relation.ReflTransGen Cancels between [] ∧
        (Draft.start (ofText s).rooted).run before = some d₀ ∧ d = d₀.push n ∧ d.pop = d₀ ∧
        d₀.text.startsWith "/" = s.startsWith "/"

theorem normalises (s : String) : Normalises s := by
  have hnames : ∀ walked, walked <+: (ofText s).steps → ∀ n, .name n ∈ walked → IsName n :=
    fun walked hwalked n hn => isName_of_mem_ofText (hwalked.subset hn)
  constructor
  case form => exact fun q => normalForm
  case cancels_iff =>
    exact fun names => normal?_eq_some_ofNames_iff.trans names?_eq_some_iff_cancels
  case none_iff => exact normal?_eq_none_iff_exists (ofText s)
  case written =>
    rw [Draft.run_start _ (hnames _ List.prefix_rfl), normal?, Option.map_map, Option.map_map]
    rfl
  case in_step =>
    intro walked d hwalked hrun
    obtain ⟨names, hleft, -, rfl⟩ := exists_of_run (hnames walked hwalked) hrun
    exact ⟨names, normal?_eq_some_ofNames_iff.2 hleft, rfl, rfl⟩
  case pops =>
    intro walked d hwalked hrun hdepth
    have hprefix : walked <+: (ofText s).steps := (List.prefix_append walked [.up]).trans hwalked
    rw [← rooted_ofText s]
    exact exists_push_of_run (hnames walked hprefix) hrun hdepth

example : (ofText "/a/.//b/../c/").normal? = some (ofText "/a/c") ∧
    (ofText "a/../..").normal? = none := by
  decide +kernel

end Path

end ImageBuild
