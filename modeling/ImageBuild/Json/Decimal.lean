import ImageBuild.Json.Binary64

/-!
# Shortest decimal form of a binary number

`Decimal.ofBinary` finds the fewest significant digits that read back as the given number, and of
those the nearest. `Decimal.text` writes them: positional with a point as long as the leading digit
stands between the places `10 ^ -5` and `10 ^ 15`, with a signed exponent otherwise.
-/

namespace ImageBuild.Json

/-- The number `digits * 10 ^ exponent`. -/
structure Decimal where
  digits : Nat
  exponent : Int
  deriving DecidableEq, Repr

namespace Decimal

/-- A decimal number as a fraction. -/
def toRatio (d : Decimal) : Nat × Nat :=
  if 0 ≤ d.exponent then (d.digits * powerOfTen d.exponent.toNat, 1)
  else (d.digits, powerOfTen (-d.exponent).toNat)

/-- Whether a decimal number reads back as a given binary one. -/
def readsBack (x : Binary64) (d : Decimal) : Bool :=
  let (n, m) := d.toRatio
  Binary64.ofRatio n m == some x

/-- The distance from a decimal number to a binary one, over a common denominator that depends on
the exponent of the decimal number only. -/
def distance (x : Binary64) (d : Decimal) : Nat :=
  let (n, m) := d.toRatio
  let (n', m') := x.toRatio
  let a := n * m'
  let b := n' * m
  max a b - min a b

/-- The place of the leading decimal digit of a positive fraction. -/
def leadingPlace (num den : Nat) : Int :=
  let guess : Int :=
    if den ≤ num then ((toString (num / den)).length : Int) - 1
    else -((toString (den / num)).length : Int)
  let (n, d) :=
    if 0 ≤ guess + 1 then (num, den * powerOfTen (guess + 1).toNat)
    else (num * powerOfTen (-(guess + 1)).toNat, den)
  if d ≤ n then guess + 1 else guess

/-- The two neighbours of a binary number on the grid of a power of ten that read back. -/
def candidates (x : Binary64) (exponent : Int) : List Decimal :=
  let (n, m) := x.toRatio
  let low :=
    if 0 ≤ exponent then n / (m * powerOfTen exponent.toNat)
    else n * powerOfTen (-exponent).toNat / m
  [⟨low, exponent⟩, ⟨low + 1, exponent⟩].filter (readsBack x)

/-- The better of the decimal numbers on one grid: the nearer one, and the even one of a tie. -/
def nearest (x : Binary64) : List Decimal → Option Decimal
  | [] => none
  | [d] => some d
  | d :: e :: _ =>
    if distance x d < distance x e then some d
    else if distance x e < distance x d then some e
    else if d.digits % 2 = 0 then some d else some e

/-- Drops final zeros, which add nothing, given a bound on their number. -/
def dropZeros : Nat → Decimal → Decimal
  | 0, d => d
  | k + 1, d =>
    if d.digits ≠ 0 ∧ d.digits % 10 = 0 then dropZeros k ⟨d.digits / 10, d.exponent + 1⟩ else d

/-- The shortest decimal number that reads back as a binary one, and of those the nearest. -/
def ofBinary (x : Binary64) : Decimal :=
  let (n, m) := x.toRatio
  let place := leadingPlace n m
  let found := (List.range 17).findSome? fun (k : Nat) => nearest x (candidates x (place - k))
  dropZeros 17 (found.getD ⟨0, 0⟩)

/-- The digits of a number, padded with zeros in front. -/
def padded (width : Nat) (n : Nat) : String :=
  let s := toString n
  String.ofList (List.replicate (width - s.length) '0') ++ s

/-- The text of a positive decimal number. -/
def text (d : Decimal) : String :=
  let s := toString d.digits
  let length : Int := s.length
  let place := length + d.exponent - 1
  if 0 ≤ d.exponent ∧ place ≤ 15 then
    s ++ String.ofList (List.replicate d.exponent.toNat '0') ++ ".0"
  else if 0 ≤ place ∧ place ≤ 15 then
    let whole := (place + 1).toNat
    String.ofList (s.toList.take whole) ++ "." ++ String.ofList (s.toList.drop whole)
  else if -5 ≤ place ∧ place < 0 then
    "0." ++ padded (-d.exponent).toNat d.digits
  else
    let exponent := (if place < 0 then "e-" else "e+") ++ toString place.natAbs
    match s.toList with
    | [] => s
    | [c] => String.ofList [c] ++ exponent
    | c :: cs => String.ofList (c :: '.' :: cs) ++ exponent

end Decimal

/-- The shortest text that reads back as a number. -/
def Binary64.text (x : Binary64) : String :=
  if x.isZero then "0.0" else (Decimal.ofBinary x).text

end ImageBuild.Json
