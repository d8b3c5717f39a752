import ImageBuild.Json.Decimal
import ImageBuild.Text.Quoted

/-!
# Faults of a document

A reader of JSON stops at the first fault. The fault has a `Cause` and stands at a place of the
document, which is counted in lines and bytes. `Fault.message` gives its wording.
-/

namespace ImageBuild.Json

/-- A number as a document writes it: natural numbers and negative integers of 64 bits, and binary
floating point numbers for all others. -/
inductive Number
  | natural (n : Nat)
  | negative (n : Nat)
  | float (negative : Bool) (magnitude : Binary64)
  deriving DecidableEq, Repr

/-- What a document holds where something else was expected. -/
inductive Found
  | null
  | boolean (value : Bool)
  | number (value : Number)
  | text (value : String)
  | sequence
  | map
  deriving DecidableEq, Repr

/-- How a value is named in a message. -/
def Found.describe : Found → String
  | .null => "null"
  | .boolean b => "boolean `" ++ (if b then "true" else "false") ++ "`"
  | .number (.natural n) => s!"integer `{n}`"
  | .number (.negative n) => s!"integer `-{n}`"
  | .number (.float sign x) =>
    "floating point `" ++ (if sign then "-" else "") ++ x.text ++ "`"
  | .text s => "string " ++ Text.quoted s
  | .sequence => "sequence"
  | .map => "map"

/-- What is wrong with a document. -/
inductive Cause
  | endInList
  | endInObject
  | endInString
  | endInValue
  | colonExpected
  | listCommaOrEndExpected
  | objectCommaOrEndExpected
  | identifierExpected
  | valueExpected
  | invalidEscape
  | invalidNumber
  | numberOutOfRange
  | controlCharacter
  | keyNotAString
  | loneSurrogate
  | unfinishedEscape
  | trailingComma
  | trailingCharacters
  | invalidType (found : Found) (expected : String)
  | invalidValue (found : Found) (expected : String)
  | invalidLength (length : Nat) (expected : String)
  | missingField (name : String)
  | duplicateField (name : String)
  | unknownVariant (name : String) (variants : List String)
  deriving DecidableEq, Repr

/-- The wording of a cause. -/
def Cause.message : Cause → String
  | .endInList => "EOF while parsing a list"
  | .endInObject => "EOF while parsing an object"
  | .endInString => "EOF while parsing a string"
  | .endInValue => "EOF while parsing a value"
  | .colonExpected => "expected `:`"
  | .listCommaOrEndExpected => "expected `,` or `]`"
  | .objectCommaOrEndExpected => "expected `,` or `\x7d`"
  | .identifierExpected => "expected ident"
  | .valueExpected => "expected value"
  | .invalidEscape => "invalid escape"
  | .invalidNumber => "invalid number"
  | .numberOutOfRange => "number out of range"
  | .controlCharacter => "control character (\\u0000-\\u001F) found while parsing a string"
  | .keyNotAString => "key must be a string"
  | .loneSurrogate => "lone leading surrogate in hex escape"
  | .unfinishedEscape => "unexpected end of hex escape"
  | .trailingComma => "trailing comma"
  | .trailingCharacters => "trailing characters"
  | .invalidType found expected => "invalid type: " ++ found.describe ++ ", expected " ++ expected
  | .invalidValue found expected => "invalid value: " ++ found.describe ++ ", expected " ++ expected
  | .invalidLength n expected => s!"invalid length {n}, expected " ++ expected
  | .missingField name => "missing field `" ++ name ++ "`"
  | .duplicateField name => "duplicate field `" ++ name ++ "`"
  | .unknownVariant name variants =>
    let names := variants.map fun variant => "`" ++ variant ++ "`"
    "unknown variant `" ++ name ++ "`, expected one of " ++ ", ".intercalate names

/-- In which way a document is at fault. -/
inductive FaultKind
  /-- It ends before its value does. -/
  | unfinished
  /-- It is not JSON. -/
  | malformed
  /-- It holds something else than expected. -/
  | mismatched
  deriving DecidableEq, Repr

/-- In which way a cause makes a document faulty. -/
def Cause.kind : Cause → FaultKind
  | .endInList | .endInObject | .endInString | .endInValue => .unfinished
  | .invalidType _ _ | .invalidValue _ _ | .invalidLength _ _ => .mismatched
  | .missingField _ | .duplicateField _ | .unknownVariant _ _ => .mismatched
  | _ => .malformed

/-- A fault: its cause and the part of the document from which its place is counted. -/
structure Fault where
  cause : Cause
  /-- The part of the document not read yet. -/
  rest : List Char
  /-- How many bytes of `rest` stand before the place, as far as there are any. -/
  ahead : Nat
  deriving DecidableEq, Repr

/-- A line, counted from one, and the bytes before a place on it. -/
structure Place where
  line : Nat
  column : Nat
  deriving DecidableEq, Repr

/-- The place that lies some bytes behind another one. -/
def Place.advance (place : Place) (bytes : Nat) : List Char → Place
  | [] => place
  | c :: cs =>
    if bytes = 0 then place
    else if c = '\n' then Place.advance ⟨place.line + 1, 0⟩ (bytes - 1) cs
    else if c.utf8Size ≤ bytes then
      Place.advance ⟨place.line, place.column + c.utf8Size⟩ (bytes - c.utf8Size) cs
    else ⟨place.line, place.column + bytes⟩

/-- The number of bytes that encode some characters. -/
def byteSize (cs : List Char) : Nat :=
  cs.foldr (fun c n => c.utf8Size + n) 0

/-- The place of a fault in a document. -/
def Fault.place (document : List Char) (f : Fault) : Place :=
  Place.advance ⟨1, 0⟩ (byteSize document - byteSize f.rest + f.ahead) document

/-- The wording of a fault in a document. -/
def Fault.message (document : List Char) (f : Fault) : String :=
  let place := f.place document
  f.cause.message ++ s!" at line {place.line} column {place.column}"

/-- The result of reading a part of a document: a value and what follows it, or a fault. -/
abbrev Reading (α : Type) := Except Fault (α × List Char)

/-- A fault at the place reached. -/
def faultAt {α : Type} (cause : Cause) (rest : List Char) : Except Fault α :=
  .error ⟨cause, rest, 0⟩

/-- A fault at the end of the byte that follows the place reached. -/
def faultAfter {α : Type} (cause : Cause) (rest : List Char) : Except Fault α :=
  .error ⟨cause, rest, 1⟩

end ImageBuild.Json
