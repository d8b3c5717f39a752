import ImageBuild.Json.Fault

/-!
# Strings of a document

The reader of a string starts behind the opening quote and ends behind the closing one. It is
structural on the document: an escape tells how many characters it takes, and the reader passes
over that many (`scanBody`). Strings of skipped members are checked with less care: their escapes
need four hexadecimal digits, but surrogates may stand alone.
-/

namespace ImageBuild.Json

/-- The character that a backslash and a letter stand for. -/
def shortEscape : Char → Option Char
  | '"' => some '"'
  | '\\' => some '\\'
  | '/' => some '/'
  | 'b' => some '\x08'
  | 'f' => some '\x0c'
  | 'n' => some '\n'
  | 'r' => some '\r'
  | 't' => some '\t'
  | _ => none

/-- The value of a hexadecimal digit of either case. -/
def hexDigit? (c : Char) : Option Nat :=
  let n := c.toNat
  if 48 ≤ n ∧ n ≤ 57 then some (n - 48)
  else if 97 ≤ n ∧ n ≤ 102 then some (n - 87)
  else if 65 ≤ n ∧ n ≤ 70 then some (n - 55)
  else none

/-- The number written by the four hexadecimal digits in front of a document. -/
def hexUnit (cs : List Char) : Except Fault Nat :=
  if byteSize cs < 4 then faultAt .endInString []
  else
    match (cs.take 4).mapM hexDigit? with
    | some [a, b, c, d] => .ok (((a * 16 + b) * 16 + c) * 16 + d)
    | _ => .error ⟨.invalidEscape, cs, 4⟩

/-- A number of 16 bits that can only begin a pair. -/
def isLeadingSurrogate (n : Nat) : Bool := 0xD800 ≤ n && n ≤ 0xDBFF

/-- A number of 16 bits that can only end a pair. -/
def isTrailingSurrogate (n : Nat) : Bool := 0xDC00 ≤ n && n ≤ 0xDFFF

/-- The character that a pair of surrogates stands for. -/
def pairedChar (leading trailing : Nat) : Char :=
  Char.ofNat ((leading - 0xD800) * 1024 + (trailing - 0xDC00) + 0x10000)

/-- The second half of a pair, of which the first half has just been read: the character and the
number of characters taken. -/
def secondUnit (leading : Nat) : List Char → Except Fault (Char × Nat)
  | [] => faultAt .endInString []
  | ['\\'] => faultAt .endInString []
  | '\\' :: 'u' :: cs =>
    match hexUnit cs with
    | .error f => .error f
    | .ok n =>
      if isTrailingSurrogate n then .ok (pairedChar leading n, 6)
      else faultAt .loneSurrogate (cs.drop 4)
  | '\\' :: cs => faultAfter .unfinishedEscape cs
  | cs => faultAfter .unfinishedEscape cs

/-- The character that an escape stands for and the number of characters it takes behind its
backslash. -/
def escape : List Char → Except Fault (Char × Nat)
  | [] => faultAt .endInString []
  | 'u' :: cs =>
    match hexUnit cs with
    | .error f => .error f
    | .ok n =>
      if isTrailingSurrogate n then faultAt .loneSurrogate (cs.drop 4)
      else if isLeadingSurrogate n then
        match secondUnit n (cs.drop 4) with
        | .error f => .error f
        | .ok (c, k) => .ok (c, 5 + k)
      else .ok (Char.ofNat n, 5)
  | c :: cs =>
    match shortEscape c with
    | some d => .ok (d, 1)
    | none => faultAfter .invalidEscape (c :: cs)

/-- The escape of a skipped string; what it stands for does not matter. -/
def looseEscape : List Char → Except Fault (Char × Nat)
  | [] => faultAt .endInString []
  | 'u' :: cs =>
    match hexUnit cs with
    | .error f => .error f
    | .ok _ => .ok ('u', 5)
  | c :: cs =>
    match shortEscape c with
    | some d => .ok (d, 1)
    | none => faultAfter .invalidEscape (c :: cs)

/-- The characters of a string up to its closing quote, by a rule for escapes; `passed` characters
in front belong to an escape already read. A control character is a fault `ahead` bytes behind the
place before it. -/
def scanBody (rule : List Char → Except Fault (Char × Nat)) (ahead : Nat) :
    Nat → List Char → Reading (List Char)
  | _, [] => faultAt .endInString []
  | passed + 1, _ :: cs => scanBody rule ahead passed cs
  | 0, c :: cs =>
    if c = '"' then .ok ([], cs)
    else if c = '\\' then
      match rule cs with
      | .error f => .error f
      | .ok (d, k) =>
        match scanBody rule ahead k cs with
        | .error f => .error f
        | .ok (ds, rest) => .ok (d :: ds, rest)
    else if c.toNat < 32 then .error ⟨.controlCharacter, c :: cs, ahead⟩
    else
      match scanBody rule ahead 0 cs with
      | .error f => .error f
      | .ok (ds, rest) => .ok (c :: ds, rest)

/-- Reads a string behind its opening quote. -/
def readBody (cs : List Char) : Reading String :=
  match scanBody escape 1 0 cs with
  | .error f => .error f
  | .ok (ds, rest) => .ok (String.ofList ds, rest)

/-- Passes over a string behind its opening quote. -/
def skipBody (cs : List Char) : Except Fault (List Char) :=
  match scanBody looseEscape 0 0 cs with
  | .error f => .error f
  | .ok (_, rest) => .ok rest

end ImageBuild.Json
