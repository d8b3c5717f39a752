import ImageBuild.Proofs.FileSystem.WellFormed

/-!
# Changes within a place

What is changed at a place and below it is gone once the place is erased (`erase_insert_within`,
`erase_erase_within`), and a place where nothing stands can be erased without a change
(`erase_of_free`). A node that is put into the slot of a directory changes that slot and what is
below it, and leaves every directory one (`Put`).
-/

namespace ImageBuild

namespace FileSystem

variable {fs fs' : FileSystem} {p q place : Place} {node : Node}

/-! ## Erasing what was changed -/

theorem filter_replace_within (hq : place <+: q) (node : Node) (nodes : List (Place × Node)) :
    (replace q node nodes).filter (fun entry => !place.isPrefixOf entry.1) =
      nodes.filter fun entry => !place.isPrefixOf entry.1 := by
  have hgone : (!place.isPrefixOf q) = false := by
    simpa using List.isPrefixOf_iff_prefix.2 hq
  induction nodes with
  | nil => simp [replace, hgone]
  | cons entry rest ih =>
    obtain ⟨p, first⟩ := entry
    unfold replace
    by_cases hp : p = q
    · rw [if_pos hp, List.filter_cons, List.filter_cons]
      simp [hp, hgone]
    · rw [if_neg hp, List.filter_cons, List.filter_cons, ih]

theorem erase_insert_within (fs : FileSystem) (hq : place <+: q) (node : Node) :
    (fs.insert q node).erase place = fs.erase place := by
  unfold insert erase
  rw [filter_replace_within hq]

theorem erase_erase_within (fs : FileSystem) (hq : place <+: q) :
    (fs.erase q).erase place = fs.erase place := by
  unfold erase
  rw [List.filter_filter]
  congr 1
  refine List.filter_congr ?_
  rintro ⟨place', _⟩ -
  -- what is below `q` is below `place`, too
  by_cases hentry : q <+: place'
  · simp [List.isPrefixOf_iff_prefix.2 (hq.trans hentry)]
  · have hkept : (!q.isPrefixOf place') = true := by
      simpa [← List.isPrefixOf_iff_prefix] using hentry
    simp only [hkept, Bool.and_true]

theorem WellFormed.erase_of_free (h : fs.WellFormed) (hfree : fs.lookup p = none) :
    fs.erase p = fs := by
  unfold FileSystem.erase
  rw [List.filter_eq_self.2]
  intro entry hentry
  rw [Bool.not_eq_true', Bool.eq_false_iff]
  intro hpre
  have hnone := h.lookup_eq_none_of_prefix hfree (List.isPrefixOf_iff_prefix.1 hpre)
  have hne : entry.1 ≠ [] := by
    intro hnil
    rw [hnil, lookup_root] at hnone
    cases hnone
  rw [(h.mem_nodes_iff hne).1 hentry] at hnone
  cases hnone

/-- What was put at a free place is taken away again. -/
theorem WellFormed.erase_insert_of_free (h : fs.WellFormed) (hfree : fs.lookup p = none)
    (node : Node) : (fs.insert p node).erase p = fs := by
  rw [fs.erase_insert_within List.prefix_rfl, h.erase_of_free hfree]

/-! ## Putting nodes into slots -/

/-- A node was put at a place, in a directory and not over one unless it is one itself. -/
structure Put (fs : FileSystem) (p : Place) (node : Node) (fs' : FileSystem) : Prop where
  wellFormed : fs'.WellFormed
  stands : fs'.lookup p = some node
  /-- Away from the place everything stands as before. -/
  elsewhere : ∀ q, ¬ p <+: q → fs'.lookup q = fs.lookup q
  /-- Directories stay directories. -/
  dirs : ∀ q, fs.isDirAt q = true → fs'.isDirAt q = true
  within : ∀ place, place <+: p → fs'.erase place = fs.erase place

theorem WellFormed.put_insert (h : fs.WellFormed) {name : Name}
    (hname : ∀ n ∈ p ++ [name], IsEntryName n) (hdir : fs.isDirAt p = true)
    (hnode : fs.isDirAt (p ++ [name]) = true → node.isDir = true) :
    Put fs (p ++ [name]) node (fs.insert (p ++ [name]) node) := by
  have hne : p ++ [name] ≠ [] := by simp
  refine ⟨h.insert hne hname (by rwa [List.dropLast_concat]) hnode,
    lookup_insert_self fs node hne, ?_, ?_, fun place hplace => fs.erase_insert_within hplace node⟩
  · intro q hq
    refine lookup_insert_of_ne fs node hne ?_
    rintro rfl
    exact hq List.prefix_rfl
  · intro q hq
    unfold isDirAt at hq ⊢
    by_cases hqp : q = p ++ [name]
    · rw [hqp] at hq ⊢
      rw [lookup_insert_self fs node hne]
      exact hnode hq
    · rwa [lookup_insert_of_ne fs node hne hqp]

/-- A node put where another one was taken away that is no directory. -/
theorem WellFormed.put_erase (h : fs.WellFormed) (hnodir : fs.isDirAt p = false)
    (hput : Put (fs.erase p) p node fs') : Put fs p node fs' := by
  refine ⟨hput.wellFormed, hput.stands, ?_, ?_, ?_⟩
  · intro q hq
    rw [hput.elsewhere q hq, lookup_erase, if_neg fun hup => hq hup.2]
  · intro q hq
    refine hput.dirs q ?_
    unfold isDirAt
    rw [lookup_erase, if_neg]
    · exact hq
    · -- nothing is below what is no directory
      rintro ⟨-, hpq⟩
      obtain ⟨mode, hl⟩ := isDirAt_iff.1 hq
      by_cases hqp : p = q
      · rw [hqp, hq] at hnodir
        cases hnodir
      · rw [h.isDirAt_of_prefix hl hpq hqp] at hnodir
        cases hnodir
  · intro place hplace
    rw [hput.within place hplace, fs.erase_erase_within hplace]

end FileSystem

end ImageBuild
