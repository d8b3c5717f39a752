/-!
# Numbers in texts

A text may write a whole number in base ten, in base eight with a zero in front, or in base sixteen with
`0x` in front. Numbers beyond sixty-four bits become the nearest ones within.
-/

namespace ImageBuild.Text.Numeral

/-- The greatest number of sixty-four bits with a sign. -/
def greatest : Int := 9223372036854775807

/-- The least number of sixty-four bits with a sign. -/
def least : Int := -9223372036854775808

/-- A number within the bounds of sixty-four bits with a sign. -/
def clamp (n : Int) : Int := max least (min greatest n)

/-- The value of a digit. -/
def digitValue (c : Char) : Nat :=
  if c.isDigit then c.toNat - 48
  else if 'a' ≤ c && c ≤ 'z' then c.toNat - 87
  else if 'A' ≤ c && c ≤ 'Z' then c.toNat - 55
  else 99

/-- The number that digits of a base write at the start of a text, how many there are, and the rest. -/
def digits (base : Nat) (cs : List Char) : Nat × Nat × List Char :=
  let ds := cs.takeWhile fun c => digitValue c < base
  (ds.foldl (fun n c => n * base + digitValue c) 0, ds.length, cs.drop ds.length)

/-- The number at the start of a text without a sign, in base eight or sixteen if it says so, and the
rest; none if no number stands there. -/
def leadingNumber? (cs : List Char) : Option (Nat × List Char) :=
  match cs with
  | '0' :: x :: rest =>
    if (x = 'x' || x = 'X') && (rest.head?.any fun c => digitValue c < 16) then
      let (n, _, rest) := digits 16 rest
      some (n, rest)
    else
      let (n, _, rest) := digits 8 cs
      some (n, rest)
  | cs =>
    let (n, count, rest) := digits 10 cs
    if count = 0 then none else some (n, rest)

/-- Whether a character is white space. -/
def isSpace (c : Char) : Bool := c == ' ' || (9 ≤ c.toNat && c.toNat ≤ 13)

/-- The number at the start of a text, with its sign and blanks in front of it, and the rest. -/
def signedNumber? (cs : List Char) : Option (Int × List Char) :=
  match cs.dropWhile isSpace with
  | '-' :: rest => (leadingNumber? rest).map fun (n, rest) => (-(n : Int), rest)
  | '+' :: rest => (leadingNumber? rest).map fun (n, rest) => ((n : Int), rest)
  | rest => (leadingNumber? rest).map fun (n, rest) => ((n : Int), rest)

/-- The number that a text writes. -/
def number? (s : String) : Option Int :=
  match signedNumber? s.toList with
  | some (n, rest) => if rest.all isSpace then some (clamp n) else none
  | none => none

/-- The number that a text writes in base ten. -/
def decimal? (s : String) : Option Int :=
  let cs := s.toList.dropWhile isSpace
  let (negative, cs) :=
    match cs with
    | '-' :: cs => (true, cs)
    | '+' :: cs => (false, cs)
    | cs => (false, cs)
  let (n, count, rest) := digits 10 cs
  if count = 0 || !rest.all isSpace then none
  else some (clamp (if negative then -(n : Int) else n))

end ImageBuild.Text.Numeral
