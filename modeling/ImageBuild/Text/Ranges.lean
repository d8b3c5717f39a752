/-!
# Ranges of characters

A table of a class of characters lists its ranges in order, each by its first and its last code
point.
-/

namespace ImageBuild.Text

/-- Whether a character lies in one of some ranges. -/
def inRanges (ranges : List (Nat × Nat)) (c : Char) : Bool :=
  ranges.any fun (first, last) => first ≤ c.toNat && c.toNat ≤ last

end ImageBuild.Text
