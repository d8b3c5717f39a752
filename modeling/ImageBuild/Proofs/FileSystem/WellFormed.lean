import ImageBuild.FileSystem.Edit
import Mathlib.Data.List.Induction
import Mathlib.Data.List.Nodup

/-!
# Well-formed file systems

A file system is well-formed if no place has two nodes, every node stands in a directory, and every
name on the way to it is one that an entry can have. This file gives the view of a changed file
system (`lookup_insert`, `lookup_erase`), shows that both changes keep a file system well-formed,
and reads what a directory holds off the view (`mem_below`).
-/

namespace ImageBuild

/-- A name that a directory entry can have. -/
def IsEntryName (name : Name) : Prop :=
  name ≠ "" ∧ name ≠ "." ∧ name ≠ ".." ∧ '/' ∉ name.toList ∧ '\x00' ∉ name.toList

instance (name : Name) : Decidable (IsEntryName name) :=
  inferInstanceAs (Decidable (_ ∧ _ ∧ _ ∧ _ ∧ _))

namespace FileSystem

variable {fs : FileSystem} {p q : Place} {node : Node}

/-! ## The view of a changed file system -/

@[simp] theorem lookup_root (fs : FileSystem) : fs.lookup [] = some (.dir rootMode) := by
  simp [lookup]

theorem lookup_of_ne_root (fs : FileSystem) (hp : p ≠ []) : fs.lookup p = fs.nodes.lookup p := by
  simp [lookup, hp]

theorem isDirAt_iff : fs.isDirAt p = true ↔ ∃ mode, fs.lookup p = some (.dir mode) := by
  unfold isDirAt
  rcases fs.lookup p with _ | n
  · simp
  · cases n <;> simp [Node.isDir]

@[simp] theorem isDirAt_root (fs : FileSystem) : fs.isDirAt [] = true :=
  isDirAt_iff.2 ⟨rootMode, fs.lookup_root⟩

theorem isFileAt_iff : fs.isFileAt p = true ↔
    ∃ content mode time, fs.lookup p = some (.file content mode time) := by
  unfold isFileAt
  rcases fs.lookup p with _ | n
  · simp
  · cases n <;> simp [Node.isFile]

theorem isDirAt_of_isFileAt (h : fs.isFileAt p = true) : fs.isDirAt p = false := by
  obtain ⟨content, mode, time, hl⟩ := isFileAt_iff.1 h
  simp [isDirAt, hl, Node.isDir]

section Lookup

variable {α β : Type} [BEq α]

/-- The first entry of a list decides about its own key only. -/
theorem lookup_cons_eq (a k : α) (b : β) (l : List (α × β)) :
    ((k, b) :: l).lookup a = if a == k then some b else l.lookup a := by
  rw [List.lookup_cons]
  cases a == k <;> rfl

theorem mem_iff_lookup_eq_some [LawfulBEq α] {l : List (α × β)} {a : α} {b : β}
    (hl : (l.map (·.1)).Nodup) : (a, b) ∈ l ↔ l.lookup a = some b := by
  induction l with
  | nil => simp
  | cons entry rest ih =>
    obtain ⟨k, b'⟩ := entry
    rw [List.map_cons, List.nodup_cons] at hl
    rw [List.mem_cons, lookup_cons_eq, Prod.mk.injEq, ih hl.2]
    by_cases ha : a = k
    · have hnone : rest.lookup a ≠ some b := fun h =>
        hl.1 (ha ▸ List.mem_map_of_mem (f := (·.1)) ((ih hl.2).2 h))
      simp [ha, eq_comm, ha ▸ hnone]
    · simp [ha]

end Lookup

theorem lookup_replace (p q : Place) (node : Node) (nodes : List (Place × Node)) :
    (replace p node nodes).lookup q = if q = p then some node else nodes.lookup q := by
  induction nodes with
  | nil => simp [replace, lookup_cons_eq]
  | cons entry rest ih =>
    obtain ⟨p', n⟩ := entry
    unfold replace
    by_cases hp : p' = p
    · by_cases hq : q = p <;> simp [lookup_cons_eq, hp, hq]
    · rw [if_neg hp, lookup_cons_eq, ih, lookup_cons_eq]
      by_cases hq : q = p
      · simp [hq, Ne.symm hp]
      · simp [hq]

theorem lookup_insert (fs : FileSystem) (node : Node) (hp : p ≠ []) :
    (fs.insert p node).lookup q = if q = p then some node else fs.lookup q := by
  unfold insert lookup
  by_cases hq : q = []
  · subst hq
    simp [Ne.symm hp]
  · rw [if_neg hq, if_neg hq, lookup_replace]

theorem lookup_insert_self (fs : FileSystem) (node : Node) (hp : p ≠ []) :
    (fs.insert p node).lookup p = some node := by
  rw [lookup_insert fs node hp, if_pos rfl]

theorem lookup_insert_of_ne (fs : FileSystem) (node : Node) (hp : p ≠ []) (hq : q ≠ p) :
    (fs.insert p node).lookup q = fs.lookup q := by
  rw [lookup_insert fs node hp, if_neg hq]

theorem lookup_filter_isPrefixOf (p q : Place) (nodes : List (Place × Node)) :
    (nodes.filter fun entry => !p.isPrefixOf entry.1).lookup q =
      if p <+: q then none else nodes.lookup q := by
  induction nodes with
  | nil => simp
  | cons entry rest ih =>
    obtain ⟨p', n⟩ := entry
    by_cases hp : p <+: p'
    · rw [List.filter_cons_of_neg (by simpa using hp), ih, lookup_cons_eq]
      by_cases hq : q = p'
      · simp [hq, hp]
      · simp [hq]
    · rw [List.filter_cons_of_pos (by simpa [← List.isPrefixOf_iff_prefix] using hp),
        lookup_cons_eq, ih, lookup_cons_eq]
      by_cases hq : q = p'
      · simp [hq, hp]
      · simp [hq]

theorem lookup_erase (fs : FileSystem) (p q : Place) :
    (fs.erase p).lookup q = if q ≠ [] ∧ p <+: q then none else fs.lookup q := by
  unfold erase lookup
  by_cases hq : q = []
  · simp [hq]
  · rw [if_neg hq, if_neg hq, lookup_filter_isPrefixOf]
    simp [hq]

/-! ## Well-formedness -/

/-- A file system that is a tree of directories with proper names, as those of an operating system
are. -/
structure WellFormed (fs : FileSystem) : Prop where
  /-- No place has two nodes. -/
  distinct : (fs.nodes.map (·.1)).Nodup
  /-- Names are those of entries. -/
  named : ∀ entry ∈ fs.nodes, ∀ name ∈ entry.1, IsEntryName name
  /-- Every node stands in a directory. -/
  housed : ∀ entry ∈ fs.nodes, fs.isDirAt entry.1.dropLast = true

instance (fs : FileSystem) : Decidable fs.WellFormed :=
  decidable_of_iff ((fs.nodes.map (·.1)).Nodup ∧
      (∀ entry ∈ fs.nodes, ∀ name ∈ entry.1, IsEntryName name) ∧
      ∀ entry ∈ fs.nodes, fs.isDirAt entry.1.dropLast = true)
    ⟨fun h => ⟨h.1, h.2.1, h.2.2⟩, fun h => ⟨h.distinct, h.named, h.housed⟩⟩

theorem map_fst_replace (p : Place) (node : Node) (nodes : List (Place × Node)) :
    (replace p node nodes).map (·.1) =
      if p ∈ nodes.map (·.1) then nodes.map (·.1) else nodes.map (·.1) ++ [p] := by
  induction nodes with
  | nil => simp [replace]
  | cons entry rest ih =>
    obtain ⟨p', n⟩ := entry
    unfold replace
    by_cases hp : p' = p
    · simp [hp]
    · rw [if_neg hp, List.map_cons, List.map_cons, ih]
      by_cases hm : p ∈ rest.map (·.1)
      · rw [if_pos hm, if_pos (List.mem_cons_of_mem _ hm)]
      · rw [if_neg hm, if_neg (by simpa [Ne.symm hp] using hm), List.cons_append]

theorem mem_replace {entry : Place × Node} {nodes : List (Place × Node)}
    (h : entry ∈ replace p node nodes) : entry = (p, node) ∨ entry ∈ nodes := by
  induction nodes with
  | nil => simpa [replace] using h
  | cons first rest ih =>
    obtain ⟨p', n⟩ := first
    unfold replace at h
    by_cases hp : p' = p
    · rw [if_pos hp, List.mem_cons] at h
      rcases h with h | h
      · exact Or.inl (by rw [h, hp])
      · exact Or.inr (List.mem_cons_of_mem _ h)
    · rw [if_neg hp, List.mem_cons] at h
      rcases h with h | h
      · exact Or.inr (by rw [h]; exact List.mem_cons_self)
      · exact (ih h).imp_right (List.mem_cons_of_mem _)

namespace WellFormed

theorem mem_nodes_iff (h : fs.WellFormed) (hp : p ≠ []) :
    (p, node) ∈ fs.nodes ↔ fs.lookup p = some node := by
  rw [lookup_of_ne_root fs hp]
  exact mem_iff_lookup_eq_some h.distinct

theorem isEntryName (h : fs.WellFormed) (hp : fs.lookup p = some node) :
    ∀ name ∈ p, IsEntryName name := by
  by_cases hnil : p = []
  · simp [hnil]
  · exact h.named _ ((h.mem_nodes_iff hnil).2 hp)

theorem isDirAt_dropLast (h : fs.WellFormed) (hp : fs.lookup p = some node) :
    fs.isDirAt p.dropLast = true := by
  by_cases hnil : p = []
  · simp [hnil]
  · exact h.housed _ ((h.mem_nodes_iff hnil).2 hp)

/-- Everything on the way to a node is a directory. -/
theorem isDirAt_of_prefix (h : fs.WellFormed) (hp : fs.lookup p = some node) (hq : q <+: p)
    (hne : q ≠ p) : fs.isDirAt q = true := by
  obtain ⟨rest, rfl⟩ := hq
  induction rest using List.reverseRecOn generalizing node with
  | nil => simp at hne
  | append_singleton rest name ih =>
    have hd : fs.isDirAt (q ++ rest) = true := by
      have := h.isDirAt_dropLast hp
      rwa [← List.append_assoc, List.dropLast_concat] at this
    obtain ⟨mode, hm⟩ := isDirAt_iff.1 hd
    by_cases hr : rest = []
    · simpa [hr] using hd
    · exact ih hm (by simpa using hr)

/-- Nothing stands below a place without a node. -/
theorem lookup_eq_none_of_prefix (h : fs.WellFormed) (hp : fs.lookup p = none) (hq : p <+: q) :
    fs.lookup q = none := by
  rcases hl : fs.lookup q with _ | n
  · rfl
  · by_cases hpq : p = q
    · rw [← hpq, hp] at hl
      cases hl
    · obtain ⟨mode, hm⟩ := isDirAt_iff.1 (h.isDirAt_of_prefix hl hq hpq)
      rw [hp] at hm
      cases hm

/-- Putting a node into a directory keeps a file system well-formed, unless it takes the place of a
directory without being one. -/
theorem insert (h : fs.WellFormed) (hp : p ≠ []) (hname : ∀ name ∈ p, IsEntryName name)
    (hdir : fs.isDirAt p.dropLast = true) (hnode : fs.isDirAt p = true → node.isDir = true) :
    (fs.insert p node).WellFormed := by
  have keep : ∀ q, fs.isDirAt q = true → (fs.insert p node).isDirAt q = true := by
    intro q hq
    by_cases hqp : q = p
    · rw [hqp] at hq ⊢
      unfold isDirAt
      rw [lookup_insert_self fs node hp]
      exact hnode hq
    · unfold isDirAt at hq ⊢
      rwa [lookup_insert_of_ne fs node hp hqp]
  refine ⟨?_, ?_, ?_⟩
  · unfold FileSystem.insert
    rw [map_fst_replace]
    split_ifs with hm
    · exact h.distinct
    · exact List.nodup_append.2 ⟨h.distinct, List.nodup_singleton p,
        fun a ha b hb e => hm (by rwa [← List.mem_singleton.1 hb, ← e])⟩
  · intro entry he
    rcases mem_replace he with rfl | he
    · exact hname
    · exact h.named entry he
  · intro entry he
    rcases mem_replace he with rfl | he
    · exact keep _ hdir
    · exact keep _ (h.housed entry he)

theorem erase (h : fs.WellFormed) (p : Place) : (fs.erase p).WellFormed := by
  refine ⟨?_, ?_, ?_⟩
  · exact h.distinct.sublist (List.Sublist.map _ List.filter_sublist)
  · exact fun entry he => h.named entry (List.mem_filter.1 he).1
  · intro entry he
    obtain ⟨hmem, hpre⟩ := List.mem_filter.1 he
    have hd := h.housed entry hmem
    unfold isDirAt at hd ⊢
    rw [lookup_erase, if_neg]
    · exact hd
    · rintro ⟨-, hp⟩
      have : p.isPrefixOf entry.1 = true :=
        List.isPrefixOf_iff_prefix.2 (hp.trans (List.dropLast_prefix _))
      simp [this] at hpre

end WellFormed

/-! ## What a directory holds -/

theorem relative?_eq_some_iff {dir place : Place} {path : List Name} :
    relative? dir place = some path ↔ path ≠ [] ∧ place = dir ++ path := by
  unfold relative?
  constructor
  · intro hr
    simp only [Bool.and_eq_true, List.isPrefixOf_iff_prefix, decide_eq_true_eq] at hr
    split_ifs at hr with hc
    obtain ⟨⟨rest, rfl⟩, hlen⟩ := hc
    rw [List.drop_left, Option.some.injEq] at hr
    subst hr
    exact ⟨fun hnil => by simp [hnil] at hlen, rfl⟩
  · rintro ⟨hne, rfl⟩
    have := List.length_pos_of_ne_nil hne
    simp [List.isPrefixOf_iff_prefix, this]

namespace WellFormed

theorem mem_below (h : fs.WellFormed) {dir : Place} {path : List Name} :
    (path, node) ∈ fs.below dir ↔ path ≠ [] ∧ fs.lookup (dir ++ path) = some node := by
  unfold below
  simp only [List.mem_filterMap, Option.map_eq_some_iff, Prod.exists, Prod.mk.injEq,
    relative?_eq_some_iff]
  constructor
  · rintro ⟨place, n, hmem, path', ⟨hne, rfl⟩, rfl, rfl⟩
    exact ⟨hne, (h.mem_nodes_iff (by simp [hne])).1 hmem⟩
  · rintro ⟨hne, hl⟩
    exact ⟨dir ++ path, node, (h.mem_nodes_iff (by simp [hne])).2 hl, path, ⟨hne, rfl⟩, rfl, rfl⟩

theorem below_eq_nil_iff (h : fs.WellFormed) {dir : Place} :
    fs.below dir = [] ↔ ∀ path, path ≠ [] → fs.lookup (dir ++ path) = none := by
  simp only [List.eq_nil_iff_forall_not_mem, Prod.forall, h.mem_below, not_and,
    Option.eq_none_iff_forall_ne_some]
  exact forall_congr' fun path => forall_comm

theorem nodup_below (h : fs.WellFormed) (dir : Place) : ((fs.below dir).map (·.1)).Nodup := by
  unfold below List.Nodup
  rw [List.pairwise_map, List.pairwise_filterMap]
  refine (List.pairwise_map.1 h.distinct).imp ?_
  rintro ⟨place, n⟩ ⟨place', n'⟩ hne b hb b' hb' e
  simp only [Option.map_eq_some_iff, relative?_eq_some_iff] at hb hb'
  obtain ⟨path, ⟨-, rfl⟩, rfl⟩ := hb
  obtain ⟨path', ⟨-, rfl⟩, rfl⟩ := hb'
  exact hne (congrArg (dir ++ ·) e)

end WellFormed

end FileSystem

end ImageBuild
