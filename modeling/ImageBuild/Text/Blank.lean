/-!
# White space

`Text.isBlank` holds of the twenty-five characters with the Unicode property `White_Space`. On top
of it stand the functions that trim a text (`trimEnd`, `trim`) and cut it into words (`words`).
All of them work on lists of characters, where their laws are stated.
-/

namespace ImageBuild.Text

/-- The ranges of the Unicode property `White_Space`. -/
def blankRanges : List (Nat × Nat) :=
  [(0x09, 0x0D), (0x20, 0x20), (0x85, 0x85), (0xA0, 0xA0), (0x1680, 0x1680), (0x2000, 0x200A),
   (0x2028, 0x2029), (0x202F, 0x202F), (0x205F, 0x205F), (0x3000, 0x3000)]

/-- A white space character. -/
def isBlank (c : Char) : Bool :=
  blankRanges.any fun (lo, hi) => lo ≤ c.toNat && c.toNat ≤ hi

/-- Whether a text holds white space only. -/
def isBlankText (s : String) : Bool :=
  s.toList.all isBlank

/-- Drops the longest final part whose characters satisfy `p`. -/
def dropEndWhile (p : Char → Bool) (cs : List Char) : List Char :=
  (cs.reverse.dropWhile p).reverse

/-- A text without its final white space. -/
def trimEnd (s : String) : String :=
  String.ofList (dropEndWhile isBlank s.toList)

/-- A text without the final characters that satisfy `p`. -/
def trimEndMatches (p : Char → Bool) (s : String) : String :=
  String.ofList (dropEndWhile p s.toList)

/-- The words of a list of characters, given the letters of the word begun, last letter first. -/
def wordsFrom (begun : List Char) : List Char → List String
  | [] => if begun = [] then [] else [String.ofList begun.reverse]
  | c :: cs =>
    if isBlank c then
      if begun = [] then wordsFrom [] cs else String.ofList begun.reverse :: wordsFrom [] cs
    else wordsFrom (c :: begun) cs

/-- The longest runs of characters that are not white space, in order. -/
def words (s : String) : List String :=
  wordsFrom [] s.toList

/-! ## Laws -/

/-- Every character that core calls white space is white space here. -/
theorem isBlank_of_isWhitespace {c : Char} (h : c.isWhitespace) : isBlank c := by
  simp only [Char.isWhitespace, Bool.or_eq_true, decide_eq_true_eq] at h
  obtain ((rfl | rfl) | rfl) | rfl := h <;> decide

@[simp] theorem dropEndWhile_nil (p : Char → Bool) : dropEndWhile p [] = [] := rfl

/-- Dropping a final part twice drops no more than once. -/
theorem dropEndWhile_dropEndWhile (p : Char → Bool) (cs : List Char) :
    dropEndWhile p (dropEndWhile p cs) = dropEndWhile p cs := by
  unfold dropEndWhile
  rw [List.reverse_reverse]
  congr 1
  generalize cs.reverse = ds
  induction ds with
  | nil => rfl
  | cons c ds ih =>
    rw [List.dropWhile_cons]
    split
    · exact ih
    · rename_i hc
      rw [List.dropWhile_cons, if_neg hc]

end ImageBuild.Text
