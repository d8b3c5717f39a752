import ImageBuild.Archive.Basic
import ImageBuild.Proofs.FileSystem.WellFormed
import Mathlib.Data.List.Sort

/-!
# The order of archives

The traversal of a tree lists every node of the tree once (`mem_traversal`, `nodup_traversal`).
-/

namespace ImageBuild

namespace Tree

variable {tree : Tree} {name : Name} {path : List Name} {node : Node}

/-- A tree as a directory holds it: proper paths, each at most once, and directories on the way. -/
structure WellFormed (tree : Tree) : Prop where
  distinct : (tree.map (·.1)).Nodup
  nonempty : ∀ entry ∈ tree, entry.1 ≠ []
  /-- Everything on the way to a node is a directory. -/
  way : ∀ entry ∈ tree, ∀ path, path <+: entry.1 → path ≠ [] → path ≠ entry.1 →
    ∃ mode, (path, .dir mode) ∈ tree

theorem mem_children : (name, node) ∈ tree.children ↔ ([name], node) ∈ tree := by
  unfold children
  rw [List.mem_filterMap]
  constructor
  · rintro ⟨⟨path, n⟩, hmem, he⟩
    match path, he with
    | [_], he =>
      rw [Option.some.injEq, Prod.mk.injEq] at he
      obtain ⟨rfl, rfl⟩ := he
      exact hmem
  · exact fun h => ⟨_, h, rfl⟩

theorem insertByName_eq_orderedInsert (entry : Name × Node) (entries : List (Name × Node)) :
    insertByName entry entries = entries.orderedInsert (fun a b => a.1 ≤ b.1) entry := by
  induction entries with
  | nil => rfl
  | cons first rest ih => rw [insertByName, ih, List.orderedInsert_cons]

theorem entries_eq_insertionSort (tree : Tree) :
    tree.entries = tree.children.insertionSort fun a b => a.1 ≤ b.1 := by
  unfold entries List.insertionSort
  simp only [funext₂ insertByName_eq_orderedInsert]

theorem mem_entries : (name, node) ∈ tree.entries ↔ ([name], node) ∈ tree := by
  rw [entries_eq_insertionSort, List.mem_insertionSort, mem_children]

theorem mem_sub : (path, node) ∈ tree.sub name ↔ path ≠ [] ∧ (name :: path, node) ∈ tree := by
  unfold sub
  rw [List.mem_filterMap]
  constructor
  · rintro ⟨⟨path', n⟩, hmem, he⟩
    match path', he with
    | first :: second :: rest, he =>
      dsimp only at he
      split_ifs at he with hfirst
      rw [Option.some.injEq, Prod.mk.injEq] at he
      obtain ⟨rfl, rfl⟩ := he
      exact ⟨by simp, hfirst ▸ hmem⟩
  · rintro ⟨hne, hmem⟩
    cases path with
    | nil => exact absurd rfl hne
    | cons second rest => exact ⟨_, hmem, if_pos rfl⟩

namespace WellFormed

theorem sub (h : tree.WellFormed) (name : Name) : (tree.sub name).WellFormed := by
  refine ⟨?_, ?_, ?_⟩
  · unfold Tree.sub List.Nodup
    rw [List.pairwise_map, List.pairwise_filterMap]
    refine (List.pairwise_map.1 h.distinct).imp ?_
    rintro ⟨path, n⟩ ⟨path', n'⟩ hne b hb b' hb' e
    match path, path', hb, hb' with
    | first :: second :: rest, first' :: second' :: rest', hb, hb' =>
      dsimp only at hb hb'
      split_ifs at hb hb' with hf hf'
      obtain rfl := Option.some.inj hb
      obtain rfl := Option.some.inj hb'
      dsimp only at e
      exact hne (by rw [hf, hf', e])
  · exact fun entry he => (mem_sub.1 he).1
  · rintro ⟨path, n⟩ he q hq hne hqp
    obtain ⟨mode, hm⟩ := h.way _ (mem_sub.1 he).2 (name :: q) (List.cons_prefix_cons.2 ⟨rfl, hq⟩)
      (by simp) (by simpa using hqp)
    exact ⟨mode, mem_sub.2 ⟨hne, hm⟩⟩

theorem nodup_entries (h : tree.WellFormed) : tree.entries.Pairwise (·.1 ≠ ·.1) := by
  have hsymm : ∀ {a b : Name × Node}, a.1 ≠ b.1 → b.1 ≠ a.1 := Ne.symm
  rw [entries_eq_insertionSort]
  refine (List.Perm.pairwise_iff hsymm (List.perm_insertionSort _ _)).2 ?_
  unfold children
  rw [List.pairwise_filterMap]
  refine (List.pairwise_map.1 h.distinct).imp ?_
  rintro ⟨path, n⟩ ⟨path', n'⟩ hne b hb b' hb' e
  match path, path', hb, hb' with
  | [_], [_], hb, hb' =>
    obtain rfl := Option.some.inj hb
    obtain rfl := Option.some.inj hb'
    exact hne (congrArg (fun name => [name]) e)

end WellFormed

/-! ## The traversal -/

theorem prefix_of_mem_traverse {depth : Nat} {dir : List Name}
    (h : (path, node) ∈ traverse depth dir tree) : ∃ rest, rest ≠ [] ∧ path = dir ++ rest := by
  induction depth generalizing dir tree with
  | zero => cases h
  | succ depth ih =>
    rw [traverse, List.mem_append, List.mem_map, List.mem_flatMap] at h
    rcases h with ⟨⟨name, n⟩, -, he⟩ | ⟨⟨name, n⟩, -, hsub⟩
    · exact ⟨[name], by simp, (congrArg Prod.fst he).symm⟩
    · obtain ⟨rest, -, rfl⟩ := ih hsub
      exact ⟨name :: rest, by simp, by simp⟩

/-- A traversal that goes deep enough lists every node of the tree. -/
theorem WellFormed.mem_traverse (h : tree.WellFormed) {depth : Nat} {dir : List Name}
    (hdepth : ∀ entry ∈ tree, entry.1.length ≤ depth) :
    (dir ++ path, node) ∈ traverse depth dir tree ↔ (path, node) ∈ tree := by
  induction depth generalizing dir tree path with
  | zero =>
    refine iff_of_false (by simp [traverse]) fun hmem => h.nonempty _ hmem ?_
    simpa using hdepth _ hmem
  | succ depth ih =>
    have hsub : ∀ name, ∀ entry ∈ tree.sub name, entry.1.length ≤ depth := by
      rintro name ⟨rest, n⟩ he
      simpa using hdepth _ (mem_sub.1 he).2
    rw [traverse, List.mem_append, List.mem_map, List.mem_flatMap]
    constructor
    · rintro (⟨⟨name, n⟩, hmem, he⟩ | ⟨⟨name, n⟩, -, hmem⟩)
      · rw [Prod.mk.injEq, List.append_cancel_left_eq] at he
        obtain ⟨rfl, rfl⟩ := he
        exact mem_entries.1 hmem
      · obtain ⟨rest, hrest, he⟩ := prefix_of_mem_traverse hmem
        obtain rfl : path = name :: rest := by simpa using he
        rw [List.append_cons, ih (h.sub name) (hsub name)] at hmem
        exact (mem_sub.1 hmem).2
    · intro hmem
      match path with
      | [] => exact absurd rfl (h.nonempty _ hmem)
      | [name] => exact Or.inl ⟨(name, node), mem_entries.2 hmem, rfl⟩
      | name :: second :: rest =>
        obtain ⟨mode, hm⟩ := h.way _ hmem [name] (by simp) (by simp) (by simp)
        refine Or.inr ⟨(name, .dir mode), ?_, ?_⟩
        · rw [List.mem_reverse, List.mem_filter]
          exact ⟨mem_entries.2 hm, rfl⟩
        · rw [List.append_cons, ih (h.sub name) (hsub name)]
          exact mem_sub.2 ⟨by simp, hmem⟩

theorem WellFormed.pairwise_traverse (h : tree.WellFormed) (depth : Nat) (dir : List Name) :
    (traverse depth dir tree).Pairwise (·.1 ≠ ·.1) := by
  induction depth generalizing dir tree with
  | zero => simp [traverse]
  | succ depth ih =>
    rw [traverse, List.pairwise_append, List.pairwise_map, List.pairwise_flatMap]
    refine ⟨h.nodup_entries.imp ?_, ⟨fun entry _ => ih (h.sub entry.1) _, ?_⟩, ?_⟩
    · rintro ⟨name, n⟩ ⟨name', n'⟩ hne e
      exact hne (by simpa using e)
    · rw [List.pairwise_reverse]
      refine (h.nodup_entries.filter _).imp ?_
      rintro ⟨name, n⟩ ⟨name', n'⟩ hne ⟨path, m⟩ hp ⟨path', m'⟩ hp' e
      obtain ⟨rest, -, he⟩ := prefix_of_mem_traverse hp
      obtain ⟨rest', -, he'⟩ := prefix_of_mem_traverse hp'
      rw [he, he'] at e
      exact hne (by simpa using (congrArg (fun l => (l.drop dir.length).head?) e).symm)
    · rintro ⟨path, n⟩ hp ⟨path', n'⟩ hp' e
      rw [List.mem_map] at hp
      obtain ⟨⟨name, m⟩, -, he⟩ := hp
      rw [List.mem_flatMap] at hp'
      obtain ⟨⟨name', m'⟩, -, hp'⟩ := hp'
      obtain ⟨rest, hrest, he'⟩ := prefix_of_mem_traverse hp'
      rw [Prod.mk.injEq] at he
      rw [he', ← he.1] at e
      exact hrest (by simpa using congrArg List.length e)

theorem length_le_depth {entry : List Name × Node} (h : entry ∈ tree) :
    entry.1.length ≤ tree.depth := by
  have key : ∀ (l : List Nat) (init : Nat), init ≤ l.foldl max init ∧
      ∀ n ∈ l, n ≤ l.foldl max init := by
    intro l
    induction l with
    | nil => simp
    | cons n l ih =>
      intro init
      obtain ⟨hinit, hall⟩ := ih (max init n)
      rw [List.foldl_cons]
      refine ⟨by omega, fun m hm => ?_⟩
      rcases List.mem_cons.1 hm with rfl | hm
      · omega
      · exact hall m hm
  exact (key _ 0).2 _ (List.mem_map_of_mem (f := fun e : List Name × Node => e.1.length) h)

/-- A traversal lists every node of the tree. -/
theorem WellFormed.mem_traversal (h : tree.WellFormed) :
    (path, node) ∈ tree.traversal ↔ (path, node) ∈ tree := by
  have key : ([] ++ path, node) ∈ traverse tree.depth [] tree ↔ (path, node) ∈ tree :=
    h.mem_traverse fun _ => length_le_depth
  exact key

/-- A traversal lists no path twice. -/
theorem WellFormed.nodup_traversal (h : tree.WellFormed) : (tree.traversal.map (·.1)).Nodup := by
  rw [List.Nodup, List.pairwise_map]
  exact h.pairwise_traverse _ _

end Tree

end ImageBuild
