import Mathlib.Logic.Function.Basic

/-!
# Numbered names

Working directories and images are named by a number behind a fixed text, with zeros in between up
to some width. Different numbers give different names.
-/

namespace ImageBuild

/-- A number in base ten, with zeros in front up to a width, behind some characters. -/
def paddedName (front : List Char) (width n : Nat) : List Char :=
  front ++ (List.replicate (width - (toString n).length) '0' ++ Nat.toDigits 10 n)

/-- The number can be read back from the digits. -/
theorem paddedName_injective (front : List Char) (width : Nat) :
    Function.Injective (paddedName front width) := by
  intro m n h
  have hdigits := List.append_cancel_left h
  have hvalue := congrArg (Nat.ofDigitChars 10 · 0) hdigits
  simpa [Nat.ofDigitChars_append, Nat.ofDigitChars_replicate_zero,
    Nat.ofDigitChars_ten_toDigits] using hvalue

/-- The zeros fill the width up, if the number has no more digits than that. -/
theorem length_paddedName (front : List Char) {width n : Nat}
    (h : (Nat.toDigits 10 n).length ≤ width) :
    (paddedName front width n).length = front.length + width := by
  have hshown : (toString n).length = (Nat.toDigits 10 n).length := by
    rw [Nat.toString_eq_repr, Nat.repr_eq_ofList_toDigits, String.length_ofList]
  unfold paddedName
  rw [hshown]
  simp only [List.length_append, List.length_replicate]
  omega

end ImageBuild
