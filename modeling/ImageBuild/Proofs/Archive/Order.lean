import ImageBuild.Proofs.Archive.Contents

/-!
# The order of an archive

Where an archive lists a node depends on its path alone: `listedBefore` compares two paths, and the
entries of an archive are in ascending order by it (`WellFormed.pairwise_listedBefore`). So two
archives with the same entries are the same (`Ordered.eq_of_mem_iff`), and the entries of one
directory stand together (`Ordered.inDir_isInfix`), in the order of their names
(`Ordered.pairwise_inDir`).
-/

namespace ImageBuild

/-- Whether an archive lists a path before another one. The entries of a directory stand before all
that is deeper; of two subdirectories, the one with the greater name is gone through first. -/
def listedBefore : List Name → List Name → Bool
  | [a], [b] => a < b
  | [_], _ :: _ :: _ => true
  | a :: a' :: p, b :: b' :: q => if a = b then listedBefore (a' :: p) (b' :: q) else b < a
  | _, _ => false

theorem listedBefore_append (dir : List Name) {p q : List Name} (hp : p ≠ []) (hq : q ≠ []) :
    listedBefore (dir ++ p) (dir ++ q) = listedBefore p q := by
  induction dir with
  | nil => rfl
  | cons name dir ih =>
    obtain ⟨a, p', hp'⟩ := List.exists_cons_of_ne_nil (List.append_ne_nil_of_right_ne_nil dir hp)
    obtain ⟨b, q', hq'⟩ := List.exists_cons_of_ne_nil (List.append_ne_nil_of_right_ne_nil dir hq)
    rw [List.cons_append, List.cons_append, ← ih, hp', hq', listedBefore, if_pos rfl]

theorem listedBefore_asymm {p q : List Name} (h : listedBefore p q = true) :
    listedBefore q p = false := by
  fun_induction listedBefore p q with
  | case1 a b =>
    rw [listedBefore, decide_eq_false_iff_not]
    exact String.lt_asymm (of_decide_eq_true h)
  | case2 => rfl
  | case3 a a' p b' q ih => rw [listedBefore, if_pos rfl, ih h]
  | case4 a a' p b b' q hne =>
    rw [listedBefore, if_neg (Ne.symm hne), decide_eq_false_iff_not]
    exact String.lt_asymm (of_decide_eq_true h)
  | case5 => cases h

theorem listedBefore_irrefl (p : List Name) : listedBefore p p = false := by
  by_contra h
  have htrue := Bool.eq_true_of_not_eq_false h
  exact h (listedBefore_asymm htrue)

theorem listedBefore_singleton {p : List Name} {name : Name} (h : listedBefore p [name] = true) :
    ∃ a, p = [a] ∧ a < name := by
  match p with
  | [] => cases h
  | [a] => exact ⟨a, rfl, of_decide_eq_true h⟩
  | _ :: _ :: _ => cases h

/-- What is on the way to a path is listed before it. -/
theorem listedBefore_of_prefix {p q : List Name} (hp : p ≠ []) (hpre : p <+: q) (hne : p ≠ q) :
    listedBefore p q = true := by
  obtain ⟨rest, rfl⟩ := hpre
  obtain ⟨name, rest, rfl⟩ := List.exists_cons_of_ne_nil (l := rest) (by simpa using hne)
  obtain ⟨dir, last, rfl⟩ := p.eq_nil_or_concat'.resolve_left hp
  rw [List.append_assoc, listedBefore_append dir (by simp) (by simp)]
  rfl

theorem ne_nil_of_listedBefore {p q : List Name} (h : listedBefore p q = true) :
    p ≠ [] ∧ q ≠ [] := by
  fun_induction listedBefore p q with
  | case5 => cases h
  | _ => exact ⟨by simp, by simp⟩

/-- What is listed between two entries of a directory is an entry of it. -/
theorem dropLast_eq_of_listedBefore {p q r : List Name} (hpq : listedBefore p q = true)
    (hqr : listedBefore q r = true) (h : p.dropLast = r.dropLast) : q.dropLast = p.dropLast := by
  fun_induction listedBefore p q generalizing r with
  | case1 a b => rfl
  | case2 a b b' q =>
    match r with
    | [_] => cases hqr
    | _ :: _ :: _ => cases h
  | case3 a a' p b' q ih =>
    match r with
    | [_] => cases hqr
    | c :: c' :: r =>
      obtain ⟨rfl, htail⟩ := List.cons.inj h
      rw [listedBefore, if_pos rfl] at hqr
      exact congrArg (List.cons _) (ih hpq hqr htail)
  | case4 a a' p b b' q hne =>
    match r with
    | [_] => cases hqr
    | c :: c' :: r =>
      -- the two would be on either side of the first name
      obtain ⟨rfl, -⟩ := List.cons.inj h
      rw [listedBefore, if_neg (Ne.symm hne)] at hqr
      exact absurd (of_decide_eq_true hqr) (String.lt_asymm (of_decide_eq_true hpq))
  | case5 => cases hpq

theorem listedBefore_siblings {p q : List Name} (h : listedBefore p q = true)
    (hdir : p.dropLast = q.dropLast) :
    ∃ a b, p = p.dropLast ++ [a] ∧ q = p.dropLast ++ [b] ∧ a < b := by
  obtain ⟨hp, hq⟩ := ne_nil_of_listedBefore h
  obtain ⟨dir, a, rfl⟩ := p.eq_nil_or_concat'.resolve_left hp
  obtain ⟨dir', b, rfl⟩ := q.eq_nil_or_concat'.resolve_left hq
  rw [List.dropLast_concat, List.dropLast_concat] at hdir
  subst hdir
  rw [listedBefore_append dir (by simp) (by simp)] at h
  exact ⟨a, b, by simp, by simp, of_decide_eq_true h⟩

section Filter

variable {α : Type} {r : α → α → Prop} {keep : α → Bool} {l : List α}

/-- From an element that is kept on, only a prefix is kept, if whatever is between elements that are
kept is kept as well. -/
theorem filter_isPrefix (hl : l.Pairwise r) {a : α} (ha : keep a = true) (hfirst : ∀ b ∈ l, r a b)
    (hbetween : ∀ a b c, r a b → r b c → keep a = true → keep c = true → keep b = true) :
    l.filter keep <+: l := by
  induction l with
  | nil => simp
  | cons b l ih =>
    obtain ⟨hb, hl⟩ := List.pairwise_cons.1 hl
    obtain ⟨hab, hfirst⟩ := List.forall_mem_cons.1 hfirst
    by_cases hkeep : keep b = true
    · rw [List.filter_cons_of_pos hkeep]
      exact List.cons_prefix_cons.2 ⟨rfl, ih hl hfirst⟩
    · have hnone : (b :: l).filter keep = [] := by
        rw [List.filter_cons_of_neg hkeep, List.filter_eq_nil_iff]
        exact fun c hc hkept => hkeep (hbetween a b c hab (hb c hc) ha hkept)
      rw [hnone]
      exact List.nil_prefix

/-- Elements are together in a list if whatever is between two of them is one of them. -/
theorem filter_isInfix (hl : l.Pairwise r)
    (hbetween : ∀ a b c, r a b → r b c → keep a = true → keep c = true → keep b = true) :
    l.filter keep <:+: l := by
  induction l with
  | nil => simp
  | cons a l ih =>
    obtain ⟨ha, hl⟩ := List.pairwise_cons.1 hl
    by_cases hkeep : keep a = true
    · rw [List.filter_cons_of_pos hkeep]
      exact (List.cons_prefix_cons.2 ⟨rfl, filter_isPrefix hl hkeep ha hbetween⟩).isInfix
    · rw [List.filter_cons_of_neg hkeep]
      exact List.infix_cons (ih hl)

end Filter

namespace Tree

variable {tree : Tree}

/-- The entries of a directory have ascending names. -/
theorem WellFormed.pairwise_entries (h : tree.WellFormed) : tree.entries.Pairwise (·.1 < ·.1) := by
  have hsorted : tree.entries.Pairwise (·.1 ≤ ·.1) := by
    rw [entries_eq_insertionSort]
    exact List.pairwise_insertionSort _ _
  refine (hsorted.and h.nodup_entries).imp fun {x y} ⟨hle, hne⟩ => ?_
  by_contra hnot
  exact hne (String.le_antisymm hle (String.not_lt.1 hnot))

/-- A traversal goes through a tree in ascending order. -/
theorem WellFormed.pairwise_listedBefore (h : tree.WellFormed) (depth : Nat) (dir : List Name) :
    (traverse depth dir tree).Pairwise fun x y => listedBefore x.1 y.1 = true := by
  induction depth generalizing dir tree with
  | zero => simp [traverse]
  | succ depth ih =>
    rw [traverse, List.pairwise_append, List.pairwise_map, List.pairwise_flatMap]
    refine ⟨h.pairwise_entries.imp ?_, ⟨fun entry _ => ih (h.sub entry.1) _, ?_⟩, ?_⟩
    · rintro ⟨a, n⟩ ⟨b, n'⟩ hlt
      rw [listedBefore_append dir (by simp) (by simp)]
      exact decide_eq_true hlt
    · -- the subdirectories are gone through in descending order
      rw [List.pairwise_reverse]
      refine (h.pairwise_entries.filter _).imp ?_
      rintro ⟨a, n⟩ ⟨b, n'⟩ hlt ⟨path, m⟩ hp ⟨path', m'⟩ hp'
      obtain ⟨rest, hrest, rfl⟩ := prefix_of_mem_traverse hp
      obtain ⟨rest', hrest', rfl⟩ := prefix_of_mem_traverse hp'
      obtain ⟨c, rest, rfl⟩ := List.exists_cons_of_ne_nil hrest
      obtain ⟨c', rest', rfl⟩ := List.exists_cons_of_ne_nil hrest'
      rw [List.append_assoc, List.append_assoc, listedBefore_append dir (by simp) (by simp)]
      have hne : b ≠ a := by
        rintro rfl
        exact String.lt_irrefl b hlt
      exact (if_neg hne).trans (decide_eq_true hlt)
    · rintro ⟨path, n⟩ hp ⟨path', n'⟩ hp'
      obtain ⟨⟨a, m⟩, -, he⟩ := List.mem_map.1 hp
      obtain ⟨⟨b, m'⟩, -, hp'⟩ := List.mem_flatMap.1 hp'
      obtain ⟨rest, hrest, rfl⟩ := prefix_of_mem_traverse hp'
      obtain ⟨c, rest, rfl⟩ := List.exists_cons_of_ne_nil hrest
      rw [← (Prod.mk.inj he).1, List.append_assoc, listedBefore_append dir (by simp) (by simp)]
      rfl

end Tree

namespace Archive

/-- The entries of an archive are in ascending order. -/
def Ordered (archive : Archive) : Prop :=
  archive.Pairwise fun x y => listedBefore x.path y.path = true

theorem Ordered.of_sublist {archive part : Archive} (h : archive.Ordered)
    (hpart : part.Sublist archive) : part.Ordered :=
  List.Pairwise.sublist hpart h

theorem Ordered.nodup {archive : Archive} (h : archive.Ordered) : archive.Nodup := by
  refine List.Pairwise.imp ?_ h
  rintro x y hxy rfl
  rw [listedBefore_irrefl] at hxy
  cases hxy

/-- Archives in order are told apart by what they hold. -/
theorem Ordered.eq_of_mem_iff {archive archive' : Archive} (h : archive.Ordered)
    (h' : archive'.Ordered) (hmem : ∀ entry, entry ∈ archive ↔ entry ∈ archive') :
    archive = archive' := by
  refine ((List.perm_ext_iff_of_nodup h.nodup h'.nodup).2 hmem).eq_of_pairwise ?_ h h'
  intro x y _ _ hxy hyx
  rw [listedBefore_asymm hxy] at hyx
  cases hyx

/-- The entries of a directory. -/
def inDir (archive : Archive) (dir : List Name) : Archive :=
  archive.filter fun entry => entry.path.dropLast = dir

/-- The entries of a directory stand together. -/
theorem Ordered.inDir_isInfix {archive : Archive} (h : archive.Ordered) (dir : List Name) :
    archive.inDir dir <:+: archive := by
  refine filter_isInfix h fun x y z hxy hyz hx hz => ?_
  rw [decide_eq_true_iff] at hx hz ⊢
  rw [dropLast_eq_of_listedBefore hxy hyz (hx.trans hz.symm), hx]

/-- The entries of a directory stand in the order of their names. -/
theorem Ordered.pairwise_inDir {archive : Archive} (h : archive.Ordered) (dir : List Name) :
    (archive.inDir dir).Pairwise fun x y =>
      ∃ a b, x.path = dir ++ [a] ∧ y.path = dir ++ [b] ∧ a < b := by
  refine List.Pairwise.imp_of_mem ?_ (h.of_sublist List.filter_sublist)
  intro x y hx hy hxy
  have hxdir := of_decide_eq_true (List.mem_filter.1 hx).2
  have hydir := of_decide_eq_true (List.mem_filter.1 hy).2
  obtain ⟨a, b, hxa, hyb, hab⟩ := listedBefore_siblings hxy (hxdir.trans hydir.symm)
  rw [hxdir] at hxa hyb
  exact ⟨a, b, hxa, hyb, hab⟩

theorem Ordered.kept {tree : Tree} (h : tree.WellFormed) : tree.traversal.kept.Ordered := by
  unfold Ordered Tree.kept
  rw [List.pairwise_filterMap]
  refine (h.pairwise_listedBefore tree.depth []).imp ?_
  rintro ⟨path, node⟩ ⟨path', node'⟩ hlt b hb b' hb'
  obtain ⟨stored, -, rfl⟩ := Option.map_eq_some_iff.1 hb
  obtain ⟨stored', -, rfl⟩ := Option.map_eq_some_iff.1 hb'
  exact hlt

end Archive

end ImageBuild
