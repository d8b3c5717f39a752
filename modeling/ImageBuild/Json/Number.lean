import ImageBuild.Json.Fault

/-!
# Numbers of a document

A number without point and exponent that fits into 64 bits is an integer, every other one a binary
floating point number. Its digits form a significand of 64 bits; digits that no longer fit are
dropped, those before the point raising the exponent.
-/

namespace ImageBuild.Json

/-- The greatest significand. -/
def significandLimit : Nat := 1 <<< 64 - 1

/-- The greatest exponent that is read as written. -/
def exponentLimit : Nat := 1 <<< 31 - 1

/-- The value of a decimal digit. -/
def digitValue (c : Char) : Nat := c.toNat - 48

/-- The digits in front of a document and what follows them. -/
def spanDigits (cs : List Char) : List Char × List Char :=
  (cs.takeWhile Char.isDigit, cs.dropWhile Char.isDigit)

/-- Appends digits to a significand as long as they fit; the others are left over. -/
def fillSignificand (n : Nat) : List Char → Nat × List Char
  | [] => (n, [])
  | c :: cs =>
    if n * 10 + digitValue c ≤ significandLimit then fillSignificand (n * 10 + digitValue c) cs
    else (n, c :: cs)

/-- A floating point number by its sign, significand and decimal exponent. -/
def readFloat (sign : Bool) (significand : Nat) (exponent : Int) (rest : List Char) :
    Reading Number :=
  match Binary64.ofDecimal significand exponent with
  | some x => .ok (.float sign x, rest)
  | none => faultAt .numberOutOfRange rest

/-- The digits of an exponent and what follows them; on a digit with which the exponent passes its
limit, what follows that digit. -/
def readExponentDigits (n : Nat) : List Char → Except (List Char) (Nat × List Char)
  | [] => .ok (n, [])
  | c :: cs =>
    if c.isDigit then
      if n * 10 + digitValue c ≤ exponentLimit then readExponentDigits (n * 10 + digitValue c) cs
      else .error cs
    else .ok (n, c :: cs)

/-- The sign in front of an exponent, if it is a minus, and what follows it. -/
def exponentSign : List Char → Bool × List Char
  | '+' :: cs => (false, cs)
  | '-' :: cs => (true, cs)
  | cs => (false, cs)

/-- Reads an exponent behind its letter. -/
def readExponent (sign : Bool) (significand : Nat) (exponent : Int) (cs : List Char) :
    Reading Number :=
  match exponentSign cs with
  | (_, []) => faultAt .endInValue []
  | (down, c :: cs) =>
    if !c.isDigit then faultAfter .invalidNumber (c :: cs)
    else
      match readExponentDigits (digitValue c) cs with
      | .ok (n, rest) =>
        readFloat sign significand (if down then exponent - n else exponent + n) rest
      | .error rest =>
        if significand ≠ 0 ∧ !down then faultAt .numberOutOfRange rest
        else .ok (.float sign .zero, (spanDigits rest).2)

/-- Reads the end of a number behind its digits: an exponent or nothing. -/
def readMagnitude (sign : Bool) (significand : Nat) (exponent : Int) : List Char → Reading Number
  | 'e' :: cs => readExponent sign significand exponent cs
  | 'E' :: cs => readExponent sign significand exponent cs
  | cs => readFloat sign significand exponent cs

/-- Reads the digits of a fraction behind the point, and what follows them. -/
def readFraction (sign : Bool) (significand : Nat) (exponent : Int) (cs : List Char) :
    Reading Number :=
  match spanDigits cs with
  | ([], []) => faultAfter .endInValue []
  | ([], rest) => faultAfter .invalidNumber rest
  | (digits, rest) =>
    let (significand, left) := fillSignificand significand digits
    readMagnitude sign significand (exponent - (digits.length - left.length : Nat)) rest

/-- The integer of a significand, or the floating point number if it does not fit. -/
def integer (sign : Bool) (n : Nat) : Number :=
  if !sign then .natural n
  else if n = 0 then .float true .zero
  else if n ≤ 1 <<< 63 then .negative n
  else .float true ((Binary64.ofRatio n 1).getD .zero)

/-- Reads the end of a number behind the digits before its point. -/
def readTail (sign : Bool) (digits rest : List Char) : Reading Number :=
  let (significand, left) := fillSignificand 0 digits
  match rest with
  | '.' :: cs => readFraction sign significand left.length cs
  | 'e' :: cs => readExponent sign significand left.length cs
  | 'E' :: cs => readExponent sign significand left.length cs
  | cs =>
    if left = [] then .ok (integer sign significand, cs)
    else readFloat sign significand left.length cs

/-- Reads a number behind its sign. -/
def readUnsigned (sign : Bool) : List Char → Reading Number
  | [] => faultAt .endInValue []
  | c :: cs =>
    if !c.isDigit then faultAfter .invalidNumber (c :: cs)
    else if c = '0' then
      if (cs.head?.map Char.isDigit).getD false then faultAfter .invalidNumber cs
      else readTail sign ['0'] cs
    else
      let (digits, rest) := spanDigits cs
      readTail sign (c :: digits) rest

end ImageBuild.Json
