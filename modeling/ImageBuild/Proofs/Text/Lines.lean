import ImageBuild.Proofs.PathSteps

/-!
# Lines and an unfinished rest

Every list is one way only lines that are ended by a separator, with a rest behind them that is not
(`exists_lined`, `Lined.unique`). Reading on is reading on with the rest (`Lined.append`), so that
of what was read so far nothing but the rest has to be kept.
-/

namespace ImageBuild.Text

variable {α : Type} {sep : α} {xs ys line rest rest' : List α} {lines lines' : List (List α)}

/-- A list is lines ended by a separator, and a rest without a separator behind them. -/
structure Lined (sep : α) (xs : List α) (lines : List (List α)) (rest : List α) : Prop where
  eq : xs = lines.flatMap (· ++ [sep]) ++ rest
  line_clear : ∀ line ∈ lines, sep ∉ line
  rest_clear : sep ∉ rest

namespace Lined

theorem of_not_mem (h : sep ∉ xs) : Lined sep xs [] xs := ⟨rfl, by simp, h⟩

theorem of_line (h : sep ∉ line) : Lined sep (line ++ [sep]) [line] [] :=
  ⟨by simp, by simpa using h, List.not_mem_nil⟩

/-- Reading on with the rest. -/
theorem append (h : Lined sep xs lines rest) (h' : Lined sep (rest ++ ys) lines' rest') :
    Lined sep (xs ++ ys) (lines ++ lines') rest' := by
  refine ⟨?_, ?_, h'.rest_clear⟩
  · rw [h.eq, List.append_assoc, h'.eq, List.flatMap_append, List.append_assoc]
  · intro line hline
    exact (List.mem_append.1 hline).elim (h.line_clear line) (h'.line_clear line)

/-- The separator ends the rest. -/
theorem concat_sep (h : Lined sep xs lines rest) :
    Lined sep (xs ++ [sep]) (lines ++ [rest]) [] :=
  h.append (of_line h.rest_clear)

theorem concat_ne {x : α} (h : Lined sep xs lines rest) (hx : x ≠ sep) :
    Lined sep (xs ++ [x]) lines (rest ++ [x]) := by
  have hclear : sep ∉ rest ++ [x] := by simp [h.rest_clear, hx.symm]
  simpa using h.append (of_not_mem hclear)

end Lined

theorem exists_lined [DecidableEq α] (sep : α) (xs : List α) :
    ∃ lines rest, Lined sep xs lines rest := by
  induction xs using List.reverseRecOn with
  | nil => exact ⟨[], [], Lined.of_not_mem List.not_mem_nil⟩
  | append_singleton xs x ih =>
    obtain ⟨lines, rest, h⟩ := ih
    by_cases hx : x = sep
    · subst hx
      exact ⟨_, _, h.concat_sep⟩
    · exact ⟨_, _, h.concat_ne hx⟩

section Split

variable [DecidableEq α]

theorem split_of_not_mem (h : sep ∉ xs) : split sep xs = [xs] := by
  induction xs with
  | nil => rfl
  | cons x xs ih =>
    obtain ⟨hx, hxs⟩ := List.ne_and_not_mem_of_not_mem_cons h
    rw [split, if_neg hx.symm, ih hxs]

/-- The parts between the separators are the lines and the rest. -/
theorem Lined.split_eq (h : Lined sep xs lines rest) : split sep xs = lines ++ [rest] := by
  obtain ⟨rfl, hlines, hrest⟩ := h
  induction lines with
  | nil => exact split_of_not_mem hrest
  | cons line lines ih =>
    obtain ⟨hline, hlines⟩ := List.forall_mem_cons.1 hlines
    rw [List.flatMap_cons, List.append_assoc, List.append_assoc, List.singleton_append,
      split_append, split_of_not_mem hline, ih hlines]
    rfl

/-- There is one way only to see a list as lines and a rest. -/
theorem Lined.unique (h : Lined sep xs lines rest) (h' : Lined sep xs lines' rest') :
    lines = lines' ∧ rest = rest' := by
  have hsplit : lines ++ [rest] = lines' ++ [rest'] := h.split_eq.symm.trans h'.split_eq
  simpa using List.append_inj' hsplit rfl

end Split

end ImageBuild.Text
