import ImageBuild.Json.Number
import ImageBuild.Json.Skip

/-!
# Values of a given type

A reader of a given type passes over white space and then reads its value. What stands there
instead is named in the fault: `unexpected` reads as much of it as that needs. `readOptional` takes
`null` for an absent value.
-/

namespace ImageBuild.Json

/-- The fault of a value of the wrong type. A list or an object is reported at its bracket, every
other value behind its end. -/
def unexpected {α : Type} (expected : String) : List Char → Except Fault α
  | [] => faultAfter .valueExpected []
  | c :: cs => do
    let wrong (found : Found) (rest : List Char) : Except Fault α :=
      faultAt (.invalidType found expected) rest
    if c = 'n' then
      wrong .null (← readWord ['u', 'l', 'l'] cs)
    else if c = 't' then
      wrong (.boolean true) (← readWord ['r', 'u', 'e'] cs)
    else if c = 'f' then
      wrong (.boolean false) (← readWord ['a', 'l', 's', 'e'] cs)
    else if c = '-' then
      let (n, rest) ← readUnsigned true cs
      wrong (.number n) rest
    else if c.isDigit then
      let (n, rest) ← readUnsigned false (c :: cs)
      wrong (.number n) rest
    else if c = '"' then
      let (s, rest) ← readBody cs
      wrong (.text s) rest
    else if c = '[' then wrong .sequence (c :: cs)
    else if c = '\x7b' then wrong .map (c :: cs)
    else faultAfter .valueExpected (c :: cs)

/-- Reads a string. -/
def readText (cs : List Char) : Reading String :=
  match skipBlanks cs with
  | [] => faultAfter .endInValue []
  | c :: rest => if c = '"' then readBody rest else unexpected "a string" (c :: rest)

/-- Reads a truth value. -/
def readBoolean (cs : List Char) : Except Fault (Bool × List Char) :=
  match skipBlanks cs with
  | [] => faultAfter .endInValue []
  | c :: rest =>
    if c = 't' then do
      let rest ← readWord ['r', 'u', 'e'] rest
      .ok (true, rest)
    else if c = 'f' then do
      let rest ← readWord ['a', 'l', 's', 'e'] rest
      .ok (false, rest)
    else unexpected "a boolean" (c :: rest)

/-- A number as a word of 32 bits, if it is one. -/
def word32 (expected : String) (n : Number) (rest : List Char) : Reading UInt32 :=
  match n with
  | .natural k =>
    if k < UInt32.size then .ok (k.toUInt32, rest)
    else faultAt (.invalidValue (.number n) expected) rest
  | .negative _ => faultAt (.invalidValue (.number n) expected) rest
  | .float _ _ => faultAt (.invalidType (.number n) expected) rest

/-- Reads a natural number of 32 bits. -/
def readWord32 (cs : List Char) : Except Fault (UInt32 × List Char) :=
  match skipBlanks cs with
  | [] => faultAfter .endInValue []
  | c :: rest =>
    if c = '-' then do
      let (n, rest) ← readUnsigned true rest
      word32 "u32" n rest
    else if c.isDigit then do
      let (n, rest) ← readUnsigned false (c :: rest)
      word32 "u32" n rest
    else unexpected "u32" (c :: rest)

/-- A number as an integer of 64 bits, if it is one. -/
def integer64 (expected : String) (n : Number) (rest : List Char) : Reading Int :=
  match n with
  | .natural k =>
    if k < 1 <<< 63 then .ok (k, rest) else faultAt (.invalidValue (.number n) expected) rest
  | .negative k => .ok (-k, rest)
  | .float _ _ => faultAt (.invalidType (.number n) expected) rest

/-- Reads an integer of 64 bits. -/
def readInteger64 (cs : List Char) : Except Fault (Int × List Char) :=
  match skipBlanks cs with
  | [] => faultAfter .endInValue []
  | c :: rest =>
    if c = '-' then do
      let (n, rest) ← readUnsigned true rest
      integer64 "i64" n rest
    else if c.isDigit then do
      let (n, rest) ← readUnsigned false (c :: rest)
      integer64 "i64" n rest
    else unexpected "i64" (c :: rest)

/-- Reads `null` or a value. -/
def readOptional {α : Type} (value : List Char → Reading α) (cs : List Char) :
    Except Fault (Option α × List Char) :=
  match skipBlanks cs with
  | 'n' :: rest => do
    let rest ← readWord ['u', 'l', 'l'] rest
    return (none, rest)
  | cs => do
    let (x, rest) ← value cs
    return (some x, rest)

/-- Passes over a value of any type. -/
def readAny (cs : List Char) : Except Fault (Unit × List Char) := do
  let rest ← skipValue cs
  return ((), rest)

end ImageBuild.Json
