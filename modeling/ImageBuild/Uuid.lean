import ImageBuild.Text.Quoted

/-!
# Identifiers of intermediate images

Every section is built under an identifier of its own, which is drawn from a supply or fixed in
advance. A supply is a sequence of identifiers; how many of them are used up is passed along.
-/

namespace ImageBuild

/-- Where identifiers come from. -/
inductive UuidSource
  /-- A fresh one each time. -/
  | random
  /-- The same one each time. -/
  | fixed (uuid : String)
  deriving DecidableEq, Repr

namespace UuidSource

/-- The identifier of reproducible plans. -/
def seed : String := "035c4ea0-d73b-5bde-7d6f-c806b04f2ec3"

/-- The source of reproducible plans. -/
def seeded : UuidSource := .fixed seed

/-- Whether a source always gives the same identifier. -/
def isSeeded : UuidSource → Bool
  | .random => false
  | .fixed _ => true

/-- The next identifier of a source and how many draws are used up after it, given a supply of draws
and how many are used up before. -/
def next (draw : Nat → String) (used : Nat) : UuidSource → String × Nat
  | .random => (draw used, used + 1)
  | .fixed uuid => (uuid, used)

end UuidSource

/-- The hexadecimal digits of a number, padded with zeros in front. -/
def paddedHex (width n : Nat) : String :=
  let digits := Text.hexDigits n
  String.ofList (List.replicate (width - digits.length) '0' ++ digits)

/-- Some hexadecimal digits of a number, behind which a given number of digits stands. -/
def hexGroup (width behind n : Nat) : String :=
  paddedHex width (n >>> (4 * behind) % 1 <<< (4 * width))

/-- The random identifier that holds a given number of 122 bits. -/
def uuidOfBits (n : Nat) : String :=
  let high := n / 4
  "-".intercalate [
    hexGroup 8 22 high,
    hexGroup 4 18 high,
    "4" ++ hexGroup 3 15 high,
    paddedHex 1 (8 + n % 4) ++ hexGroup 3 12 high,
    hexGroup 12 0 high]

end ImageBuild
