/-!
# Binary floating point numbers of 64 bits

A non-negative finite number is a mantissa below `2 ^ 53` times a power of two that is not less than
`2 ^ -1074`. `Binary64.ofRatio` rounds a quotient of natural numbers to the nearest such number, a
half going to the even mantissa; a quotient that rounds to `2 ^ 1024` or more has none. Products and
quotients are the exact ones, rounded.
-/

namespace ImageBuild.Json

/-- A power of ten. -/
def powerOfTen (k : Nat) : Nat := Nat.pow 10 k

/-- The number `mantissa * 2 ^ exponent`. -/
structure Binary64 where
  mantissa : Nat
  exponent : Int
  deriving DecidableEq, Repr, Inhabited

namespace Binary64

/-- The number zero. -/
def zero : Binary64 := ⟨0, -1074⟩

/-- Whether a number is zero. -/
def isZero (x : Binary64) : Bool := x.mantissa == 0

/-- The quotient of two natural numbers, rounded to the nearest one, a half to the even one. -/
def roundDiv (num den : Nat) : Nat :=
  let q := num / den
  let r := num % den
  if 2 * r < den then q
  else if 2 * r = den then q + q % 2
  else q + 1

/-- A fraction multiplied by a power of two. -/
def shifted (num den : Nat) (e : Int) : Nat × Nat :=
  if 0 ≤ e then (num <<< e.toNat, den) else (num, den <<< (-e).toNat)

/-- The exponent at which a positive fraction has a mantissa of 53 bits, or the least exponent. -/
def exponentOf (num den : Nat) : Int :=
  let guess : Int := (Nat.log2 num : Int) - Nat.log2 den - 52
  let (n, d) := shifted num den (-guess)
  let exact := if n < d <<< 52 then guess - 1 else guess
  max exact (-1074)

/-- The number nearest to a fraction, or none if that is beyond the greatest one. -/
def ofRatio (num den : Nat) : Option Binary64 :=
  if num = 0 then some zero
  else
    let e := exponentOf num den
    let (n, d) := shifted num den (-e)
    let m := roundDiv n d
    let (m, e) := if m = 1 <<< 53 then (1 <<< 52, e + 1) else (m, e)
    if 971 < e then none else some ⟨m, e⟩

/-- A number as a fraction. -/
def toRatio (x : Binary64) : Nat × Nat :=
  shifted x.mantissa 1 x.exponent

/-- The product of two numbers, if it is in range. -/
def mul? (x y : Binary64) : Option Binary64 :=
  let (n, d) := x.toRatio
  let (n', d') := y.toRatio
  ofRatio (n * n') (d * d')

/-- The quotient of two numbers, if it is in range. -/
def div? (x y : Binary64) : Option Binary64 :=
  let (n, d) := x.toRatio
  let (n', d') := y.toRatio
  ofRatio (n * d') (d * n')

/-- The number nearest to a power of ten, for powers up to `10 ^ 308`. -/
def pow10 (k : Nat) : Binary64 :=
  (ofRatio (powerOfTen k) 1).getD zero

/-- A number divided by a power of ten, by at most `10 ^ 308` at a time. -/
def scaleDown (x : Binary64) (k : Nat) : Binary64 :=
  if k ≤ 308 then (x.div? (pow10 k)).getD zero
  else if x.isZero then x
  else scaleDown ((x.div? (pow10 308)).getD zero) (k - 308)
termination_by k

/-- The number `significand * 10 ^ exponent`, with one rounding for the significand and one for
each power of ten; none if it is out of range. -/
def ofDecimal (significand : Nat) (exponent : Int) : Option Binary64 :=
  match ofRatio significand 1 with
  | none => none
  | some x =>
    if 0 ≤ exponent then
      if exponent ≤ 308 then x.mul? (pow10 exponent.toNat)
      else if x.isZero then some x
      else none
    else some (x.scaleDown (-exponent).toNat)

end Binary64

end ImageBuild.Json
