import ImageBuild.Proofs.FileSystem.WellFormed

/-!
# Places aside

A place is aside if nothing leads there: its name is no part of another place and of no link that
stands elsewhere (`Aside`). Paths that do not name it lead to the same with it and without it, and
never to it (`Aside.walk_erase`). So what is done elsewhere is done without the place as well, and
the place stays aside (`Aside.insert`, `insert_erase`).
-/

namespace ImageBuild

/-! ## Texts -/

/-- Whether the path that a text writes goes through an entry of a name. -/
def NamedIn (n : Name) (s : String) : Prop :=
  n ∈ Text.splitText '/' s

instance (n : Name) (s : String) : Decidable (NamedIn n s) :=
  inferInstanceAs (Decidable (_ ∈ _))

variable {n : Name}

theorem Path.mem_of_name_mem_stepsOfParts {parts : List String}
    (h : .name n ∈ stepsOfParts parts) : n ∈ parts := by
  have hofText : ∀ part, .name n = Step.ofText part → n = part := by
    intro part hpart
    unfold Step.ofText at hpart
    split_ifs at hpart
    exact Step.name.inj hpart
  induction parts with
  | nil => cases h
  | cons part rest ih =>
    rcases rest with _ | ⟨next, rest⟩
    · unfold stepsOfParts at h
      split_ifs at h
      · cases List.mem_singleton.1 h
      · exact List.mem_singleton.2 (hofText part (List.mem_singleton.1 h))
    · unfold stepsOfParts at h
      split_ifs at h
      · exact List.mem_cons_of_mem _ (ih h)
      · rcases List.mem_cons.1 h with h | h
        · exact hofText part h ▸ List.mem_cons_self
        · exact List.mem_cons_of_mem _ (ih h)

/-- The names that a path goes through are parts of its text. -/
theorem Path.namedIn_of_mem_steps {s : String} (h : .name n ∈ (Path.ofText s).steps) :
    NamedIn n s := by
  unfold Path.ofText at h
  split_ifs at h
  · cases h
  · exact mem_of_name_mem_stepsOfParts h

/-- Whether a node leads away by a link that names an entry. -/
def Node.LinksBy (n : Name) (node : Node) : Prop :=
  ∃ target, node = .link target ∧ NamedIn n target

instance (n : Name) : (node : Node) → Decidable (node.LinksBy n)
  | .link target =>
    decidable_of_iff (NamedIn n target)
      ⟨fun h => ⟨target, rfl, h⟩, fun ⟨_, htarget, h⟩ => Node.link.inj htarget ▸ h⟩
  | .file .. | .dir _ | .pipe _ | .socket _ => isFalse fun ⟨_, h, _⟩ => nomatch h

namespace FileSystem

variable {fs : FileSystem} {place p q : Place} {node : Node} {limit : Option Nat}

/-! ## Places aside -/

/-- A place with a name that leads nowhere else and by which nothing elsewhere leads to it. -/
structure Aside (fs : FileSystem) (place : Place) (n : Name) : Prop where
  name : n ∈ place
  others : ∀ entry ∈ fs.nodes, ¬ place <+: entry.1 → n ∉ entry.1 ∧ ¬ entry.2.LinksBy n

instance (fs : FileSystem) (place : Place) (n : Name) : Decidable (fs.Aside place n) :=
  decidable_of_iff (n ∈ place ∧
      ∀ entry ∈ fs.nodes, ¬ place <+: entry.1 → n ∉ entry.1 ∧ ¬ entry.2.LinksBy n)
    ⟨fun h => ⟨h.1, h.2⟩, fun h => ⟨h.name, h.others⟩⟩

theorem mem_nodes_of_lookup (hq : q ≠ []) (h : fs.lookup q = some node) : (q, node) ∈ fs.nodes := by
  rw [lookup_of_ne_root fs hq, List.lookup_eq_some_iff] at h
  obtain ⟨front, back, hnodes, -⟩ := h
  simp [hnodes]

theorem not_mem_concat {m : Name} (hp : n ∉ p) (hm : n ≠ m) : n ∉ p ++ [m] := by
  simp [hp, hm]

/-- Away from a place that is erased everything stands as before. -/
theorem lookup_erase_of_not_mem (fs : FileSystem) (hn : n ∈ place) (hq : n ∉ q) :
    (fs.erase place).lookup q = fs.lookup q := by
  rw [lookup_erase, if_neg]
  rintro ⟨-, hup⟩
  exact hq (hup.subset hn)

theorem isDirAt_erase_of_not_mem (fs : FileSystem) (hn : n ∈ place) (hq : n ∉ q) :
    (fs.erase place).isDirAt q = fs.isDirAt q := by
  unfold isDirAt
  rw [lookup_erase_of_not_mem fs hn hq]

theorem isFileAt_erase_of_not_mem (fs : FileSystem) (hn : n ∈ place) (hq : n ∉ q) :
    (fs.erase place).isFileAt q = fs.isFileAt q := by
  unfold isFileAt
  rw [lookup_erase_of_not_mem fs hn hq]

theorem filter_replace (hq : ¬ place <+: q) (node : Node) (nodes : List (Place × Node)) :
    (replace q node nodes).filter (fun entry => !place.isPrefixOf entry.1) =
      replace q node (nodes.filter fun entry => !place.isPrefixOf entry.1) := by
  have hkept : ∀ p, ¬ place <+: p → (!place.isPrefixOf p) = true := by
    intro p hp
    simpa [← List.isPrefixOf_iff_prefix] using hp
  induction nodes with
  | nil => exact List.filter_cons_of_pos (hkept q hq)
  | cons entry rest ih =>
    obtain ⟨p, first⟩ := entry
    by_cases hp : p = q
    · subst hp
      simp only [replace, List.filter_cons, if_true, hkept p hq]
    · by_cases hgone : place <+: p
      · have hfiltered : (!place.isPrefixOf p) = false := by
          simpa using hgone
        simp only [replace, List.filter_cons, if_neg hp, hfiltered, ih, Bool.false_eq_true,
          if_false]
      · simp only [replace, List.filter_cons, if_neg hp, hkept p hgone, ih, if_true]

/-- Putting a node elsewhere can as well be done after a place is erased. -/
theorem erase_insert (fs : FileSystem) (hn : n ∈ place) (hq : n ∉ q) (node : Node) :
    (fs.insert q node).erase place = (fs.erase place).insert q node :=
  congrArg mk (filter_replace (fun hup => hq (hup.subset hn)) node fs.nodes)

theorem erase_erase (fs : FileSystem) (p q : Place) :
    (fs.erase p).erase q = (fs.erase q).erase p := by
  unfold erase
  simp only [List.filter_filter, Bool.and_comm]

/-- A directory that holds no part of a place that is erased holds the same afterwards. -/
theorem below_erase (fs : FileSystem) {dir : Place} (hup : ¬ dir <+: place)
    (hdown : ¬ place <+: dir) : (fs.erase place).below dir = fs.below dir := by
  unfold below erase
  dsimp only
  rw [List.filterMap_filter]
  refine List.filterMap_congr fun entry he => ?_
  obtain ⟨p, node⟩ := entry
  dsimp only
  by_cases hgone : place <+: p
  · have hnone : relative? dir p = none := by
      rw [Option.eq_none_iff_forall_ne_some]
      intro path hpath
      obtain ⟨-, rfl⟩ := relative?_eq_some_iff.1 hpath
      rcases List.prefix_or_prefix_of_prefix hgone (List.prefix_append dir path) with h | h
      · exact hdown h
      · exact hup h
    simp [hnone]
  · simp [hgone]

namespace Aside

theorem not_linksBy (h : fs.Aside place n) (hq : n ∉ q) (hl : fs.lookup q = some node) :
    ¬ node.LinksBy n := by
  by_cases hroot : q = []
  · subst hroot
    obtain rfl := Option.some.inj (fs.lookup_root.symm.trans hl)
    rintro ⟨target, htarget, -⟩
    cases htarget
  · exact (h.others _ (mem_nodes_of_lookup hroot hl) fun hup => hq (hup.subset h.name)).2

/-! ## Walks -/

/-- Nothing that steps come to has the name, and no steps are left that do. -/
def Spared (n : Name) : Advance → Prop
  | .arrived p => n ∉ p
  | .missing p => n ∉ p
  | .link dir target rest => n ∉ dir ∧ ¬ NamedIn n target ∧ .name n ∉ rest
  | .failed _ => True

theorem spared_advance (h : fs.Aside place n) (limit : Option Nat) {steps : List Step}
    (hp : n ∉ p) (hsteps : .name n ∉ steps) : Spared n (fs.advance limit p steps) := by
  induction steps generalizing p with
  | nil =>
    rw [advance]
    exact hp
  | cons step rest ih =>
    have hrest := List.not_mem_of_not_mem_cons hsteps
    rw [advance.eq_def]
    dsimp only
    split
    · trivial
    · split
      · cases step with
        | here => exact ih hp hrest
        | up => exact ih (fun hmem => hp ((List.dropLast_prefix p).subset hmem)) hrest
        | name m =>
          have hnext : n ∉ p ++ [m] :=
            not_mem_concat hp fun hm => List.ne_of_not_mem_cons hsteps (congrArg Step.name hm)
          dsimp only
          split
          · trivial
          · split
            · split_ifs
              · exact hnext
              · trivial
            · rename_i target hl
              exact ⟨hp, fun hnamed => h.not_linksBy hnext hl ⟨target, rfl, hnamed⟩, hrest⟩
            · exact ih hnext hrest
      · trivial

/-- Steps that do not name a place aside lead to the same without it. -/
theorem advance_erase (hn : n ∈ place) {steps : List Step} (hp : n ∉ p)
    (hsteps : .name n ∉ steps) :
    (fs.erase place).advance limit p steps = fs.advance limit p steps := by
  induction steps generalizing p with
  | nil => rw [advance, advance]
  | cons step rest ih =>
    have hrest := List.not_mem_of_not_mem_cons hsteps
    rw [advance.eq_def, advance.eq_def fs]
    dsimp only
    rw [lookup_erase_of_not_mem fs hn hp]
    cases step with
    | here => rw [ih hp hrest]
    | up => rw [ih (fun hmem => hp ((List.dropLast_prefix p).subset hmem)) hrest]
    | name m =>
      have hnext : n ∉ p ++ [m] :=
        not_mem_concat hp fun hm => List.ne_of_not_mem_cons hsteps (congrArg Step.name hm)
      dsimp only
      rw [lookup_erase_of_not_mem fs hn hnext, ih hnext hrest]

/-- Where a walk ends has not the name. -/
def Clear (n : Name) : Destination → Prop
  | .found p => n ∉ p
  | .missing p => n ∉ p
  | .failed _ => True

theorem not_mem_start {target : String} {dir : Place} (hdir : n ∉ dir) :
    n ∉ if (Path.ofText target).rooted then [] else dir := by
  split_ifs
  · exact List.not_mem_nil
  · exact hdir

theorem name_not_mem_append {target : String} {rest : List Step} (htarget : ¬ NamedIn n target)
    (hrest : .name n ∉ rest) : .name n ∉ (Path.ofText target).steps ++ rest := by
  intro hmem
  exact (List.mem_append.1 hmem).elim (mt Path.namedIn_of_mem_steps htarget) hrest

/-- Paths that do not name a place aside do not lead there. -/
theorem clear_walk (h : fs.Aside place n) (limit : Option Nat) (links : Nat) {steps : List Step}
    (hp : n ∉ p) (hsteps : .name n ∉ steps) : Clear n (fs.walk limit links p steps) := by
  induction links generalizing p steps with
  | zero =>
    have hspared := h.spared_advance limit hp hsteps
    unfold walk
    cases ha : fs.advance limit p steps with
    | arrived q | missing q =>
      rw [ha] at hspared
      exact hspared
    | failed | link => trivial
  | succ links ih =>
    have hspared := h.spared_advance limit hp hsteps
    unfold walk
    cases ha : fs.advance limit p steps with
    | arrived q | missing q =>
      rw [ha] at hspared
      exact hspared
    | failed => trivial
    | link dir target rest =>
      rw [ha] at hspared
      obtain ⟨hdir, htarget, hrest⟩ := hspared
      dsimp only
      split
      · trivial
      · exact ih (not_mem_start hdir) (name_not_mem_append htarget hrest)

/-- Paths that do not name a place aside lead to the same without it. -/
theorem walk_erase (h : fs.Aside place n) {links : Nat} {steps : List Step} (hp : n ∉ p)
    (hsteps : .name n ∉ steps) :
    (fs.erase place).walk limit links p steps = fs.walk limit links p steps := by
  induction links generalizing p steps with
  | zero =>
    unfold walk
    rw [advance_erase h.name hp hsteps]
  | succ links ih =>
    have hspared := h.spared_advance limit hp hsteps
    unfold walk
    rw [advance_erase h.name hp hsteps]
    cases ha : fs.advance limit p steps with
    | arrived | missing | failed => rfl
    | link dir target rest =>
      rw [ha] at hspared
      obtain ⟨hdir, htarget, hrest⟩ := hspared
      dsimp only
      rw [ih (not_mem_start hdir) (name_not_mem_append htarget hrest)]

theorem not_mem_of_existing {d : Destination} (hd : Clear n d) (h : d.existing = .ok q) :
    n ∉ q := by
  cases d with
  | found p => exact Except.ok.inj h ▸ hd
  | missing | failed => cases h

section Texts

variable {cwd : Place} {s : String}

/-! ## Texts of paths -/

theorem destination_erase (h : fs.Aside place n) (hcwd : n ∉ cwd)
    (hs : .name n ∉ (Path.ofText s).steps) :
    (fs.erase place).destination limit cwd s = fs.destination limit cwd s := by
  unfold destination
  dsimp only
  rw [h.walk_erase (not_mem_start hcwd) hs]

theorem clear_destination (h : fs.Aside place n) (hcwd : n ∉ cwd)
    (hs : .name n ∉ (Path.ofText s).steps) : Clear n (fs.destination limit cwd s) := by
  unfold destination
  split
  · trivial
  · exact h.clear_walk _ _ (not_mem_start hcwd) hs

theorem resolve_erase (h : fs.Aside place n) (hcwd : n ∉ cwd)
    (hs : .name n ∉ (Path.ofText s).steps) :
    (fs.erase place).resolve cwd s = fs.resolve cwd s := by
  unfold resolve locate
  rw [h.destination_erase hcwd hs]

theorem not_mem_of_resolve (h : fs.Aside place n) (hcwd : n ∉ cwd)
    (hs : .name n ∉ (Path.ofText s).steps) (hr : fs.resolve cwd s = .ok q) : n ∉ q := by
  unfold resolve locate at hr
  split_ifs at hr
  · cases hr
  · exact not_mem_of_existing (h.clear_destination hcwd hs) hr

theorem canonical_erase (h : fs.Aside place n) (hcwd : n ∉ cwd)
    (hs : .name n ∉ (Path.ofText s).steps) :
    (fs.erase place).canonical cwd s = fs.canonical cwd s := by
  unfold canonical
  rw [h.destination_erase hcwd hs]

theorem not_mem_of_canonical (h : fs.Aside place n) (hcwd : n ∉ cwd)
    (hs : .name n ∉ (Path.ofText s).steps) (hc : fs.canonical cwd s = .ok q) : n ∉ q :=
  not_mem_of_existing (h.clear_destination hcwd hs) hc

end Texts

/-! ## Changes elsewhere -/

theorem insert (h : fs.Aside place n) (hq : n ∉ q) (hnode : ¬ node.LinksBy n) :
    (fs.insert q node).Aside place n := by
  refine ⟨h.name, fun entry he => ?_⟩
  rcases mem_replace he with rfl | he
  · exact fun _ => ⟨hq, hnode⟩
  · exact h.others entry he

theorem erase (h : fs.Aside place n) (q : Place) : (fs.erase q).Aside place n :=
  ⟨h.name, fun entry he => h.others entry (List.mem_filter.1 he).1⟩

end Aside

end FileSystem

end ImageBuild
