import ImageBuild.Proofs.Archive.Contents

/-!
# The traversal with a stack

What is below a directory can be gone through with a stack of directories that are still to be
listed: each round takes the one on top, lists its entries in the order of their names, and puts the
directories among them on the stack (`Rounds`). Links are entries like others, so that no round
follows one. The rounds come to an end, and what they list is the traversal
(`WellFormed.rounds_iff`): what is left to list is always the traversals of the directories on the
stack, one behind the other (`WellFormed.rounds_cons`).
-/

namespace ImageBuild.FileSystem

/-- The entries of a directory below `root` in the order of their names, by their paths below
`root`. -/
def listing (fs : FileSystem) (root : Place) (dir : List Name) : Tree :=
  (fs.below (root ++ dir)).entries.map fun (name, node) => (dir ++ [name], node)

/-- The directories among some nodes, with the last one on top. -/
def pushed (nodes : Tree) : List (List Name) :=
  ((nodes.filter fun (_, node) => node.isDir).map (·.1)).reverse

/-- What is listed, in order, until a stack of directories is empty. -/
inductive Rounds (fs : FileSystem) (root : Place) : List (List Name) → Tree → Prop
  | done : fs.Rounds root [] []
  | round {dir : List Name} {stack : List (List Name)} {rest : Tree} :
      fs.Rounds root (pushed (fs.listing root dir) ++ stack) rest →
      fs.Rounds root (dir :: stack) (fs.listing root dir ++ rest)

variable {fs : FileSystem} {root : Place} {dir : List Name} {stack : List (List Name)}
  {nodes rest : Tree}

/-- A stack leaves no choice of what is listed. -/
theorem Rounds.unique {nodes' : Tree} (h : fs.Rounds root stack nodes)
    (h' : fs.Rounds root stack nodes') : nodes = nodes' := by
  induction h generalizing nodes' with
  | done =>
    cases h'
    rfl
  | round _ ih =>
    cases h' with
    | round hrest => rw [ih hrest]

theorem sub_below (fs : FileSystem) (dir : Place) (name : Name) :
    (fs.below dir).sub name = fs.below (dir ++ [name]) := by
  unfold below Tree.sub
  rw [List.filterMap_filterMap]
  refine List.filterMap_congr fun ⟨place, node⟩ _ => Option.ext fun ⟨path, n⟩ => ?_
  simp only [Option.bind_eq_some_iff, Option.map_eq_some_iff, relative?_eq_some_iff,
    List.append_assoc, List.singleton_append]
  constructor
  · rintro ⟨_, ⟨whole, ⟨-, rfl⟩, rfl⟩, he⟩
    match whole, he with
    | first :: second :: rest, he =>
      dsimp only at he
      split_ifs at he with hfirst
      obtain ⟨rfl, rfl⟩ := Prod.mk.inj (Option.some.inj he)
      exact ⟨_, ⟨by simp, by rw [hfirst]⟩, rfl⟩
  · rintro ⟨_, ⟨hne, rfl⟩, he⟩
    obtain ⟨rfl, rfl⟩ := Prod.mk.inj he
    obtain ⟨second, rest, rfl⟩ := List.exists_cons_of_ne_nil hne
    exact ⟨_, ⟨name :: second :: rest, ⟨by simp, rfl⟩, rfl⟩, if_pos rfl⟩

theorem pushed_listing (fs : FileSystem) (root : Place) (dir : List Name) :
    pushed (fs.listing root dir) =
      ((fs.below (root ++ dir)).entries.filter fun (_, node) => node.isDir).reverse.map
        fun (name, _) => dir ++ [name] := by
  unfold pushed listing
  rw [List.filter_map, List.map_map, List.map_reverse]
  rfl

/-- The traversal of a directory on top of a stack comes before what the stack makes listed. -/
theorem WellFormed.rounds_cons (h : fs.WellFormed) {depth : Nat}
    (hdepth : ∀ entry ∈ fs.below (root ++ dir), entry.1.length ≤ depth)
    (hrest : fs.Rounds root stack rest) :
    fs.Rounds root (dir :: stack) (Tree.traverse depth dir (fs.below (root ++ dir)) ++ rest) := by
  induction depth generalizing dir stack rest with
  | zero =>
    have hempty : fs.below (root ++ dir) = [] := by
      refine List.eq_nil_iff_forall_not_mem.2 fun entry hmem => ?_
      exact (h.below _).nonempty entry hmem (by simpa using hdepth entry hmem)
    have hlisting : fs.listing root dir = [] := by
      unfold listing
      rw [hempty]
      rfl
    have hround : fs.Rounds root (dir :: stack) (fs.listing root dir ++ rest) :=
      .round (by simpa [hlisting, pushed] using hrest)
    rwa [hlisting] at hround
  | succ depth ih =>
    rw [Tree.traverse, List.append_assoc]
    refine .round ?_
    rw [pushed_listing]
    -- the directories that this round puts on the stack, one by one
    generalize ((fs.below (root ++ dir)).entries.filter _).reverse = subdirs
    induction subdirs with
    | nil => exact hrest
    | cons subdir subdirs ihs =>
      obtain ⟨name, node⟩ := subdir
      rw [List.map_cons, List.flatMap_cons, List.cons_append, List.append_assoc]
      dsimp only
      rw [sub_below, List.append_assoc]
      refine ih ?_ ihs
      rintro ⟨path, node⟩ hmem
      rw [← List.append_assoc, ← sub_below] at hmem
      simpa using hdepth _ (Tree.mem_sub.1 hmem).2

/-- Going through a directory with a stack comes to an end, and lists its traversal. -/
theorem WellFormed.rounds_iff (h : fs.WellFormed) :
    fs.Rounds root [[]] nodes ↔ nodes = (fs.below root).traversal := by
  have hrounds : fs.Rounds root [[]] (fs.below root).traversal := by
    have hcons : fs.Rounds root [[]]
        (Tree.traverse (fs.below root).depth [] (fs.below (root ++ [])) ++ []) :=
      h.rounds_cons (fun entry hmem => Tree.length_le_depth (by simpa using hmem)) .done
    rwa [List.append_nil, List.append_nil] at hcons
  exact ⟨fun h' => h'.unique hrounds, fun e => e ▸ hrounds⟩

end ImageBuild.FileSystem
