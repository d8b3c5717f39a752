/-!
# Cutting at a separator

`split sep` cuts a list at every occurrence of `sep`. There is always one part more than there are
separators, and the parts joined with the separator give the list back.
-/

namespace ImageBuild.Text

variable {α : Type} [DecidableEq α]

/-- The parts of a list between the occurrences of a separator. -/
def split (sep : α) : List α → List (List α)
  | [] => [[]]
  | x :: xs =>
    if x = sep then [] :: split sep xs
    else
      match split sep xs with
      | [] => [[x]]
      | part :: parts => (x :: part) :: parts

/-- The parts of a text between the occurrences of a character. -/
def splitText (sep : Char) (s : String) : List String :=
  (split sep s.toList).map String.ofList

theorem split_ne_nil (sep : α) (xs : List α) : split sep xs ≠ [] := by
  cases xs with
  | nil => simp [split]
  | cons x xs =>
    simp only [split]
    split
    · simp
    · split <;> simp

/-- Joining the parts gives the list back. -/
theorem intercalate_split (sep : α) (xs : List α) : [sep].intercalate (split sep xs) = xs := by
  induction xs with
  | nil => rfl
  | cons x xs ih =>
    simp only [split]
    split
    · rename_i h
      subst h
      cases hs : split x xs with
      | nil => exact absurd hs (split_ne_nil x xs)
      | cons part parts =>
        rw [hs] at ih
        simp only [List.intercalate, List.intersperse_cons_cons, List.flatten_cons] at ih ⊢
        simp [ih]
    · cases hs : split sep xs with
      | nil => exact absurd hs (split_ne_nil sep xs)
      | cons part parts =>
        rw [hs] at ih
        cases parts with
        | nil => simpa [List.intercalate] using ih
        | cons p ps =>
          simp only [List.intercalate, List.intersperse_cons_cons, List.flatten_cons] at ih ⊢
          simp [← ih]

end ImageBuild.Text
