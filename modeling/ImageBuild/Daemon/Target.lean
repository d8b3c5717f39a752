import ImageBuild.Json.Text
import ImageBuild.Text.Split
import ImageBuild.Text.Utf8

/-!
# Addresses

The path of an address is cut at a question mark or a hash sign, loses line breaks, tabs and the blanks at its
end, and its parts between slashes are walked: a part of one dot is left out, a part of two dots
takes the part before it away. A percent sign with two hexadecimal digits stands for a byte.
`Target.seen` is the path that the other side sees. What stands between the question mark and the
hash sign is the query, a list of names and values.
-/

namespace ImageBuild.Target

/-- The bytes of a text in which a percent sign with two hexadecimal digits stands for a byte. -/
def decode : List Char → List UInt8
  | [] => []
  | '%' :: a :: b :: cs =>
    match Json.hexDigit? a, Json.hexDigit? b with
    | some high, some low => (high * 16 + low).toUInt8 :: decode cs
    | _, _ => 37 :: decode (a :: b :: cs)
  | c :: cs => Text.Utf8.encode (String.ofList [c]) ++ decode cs

/-- Whether a character is dropped wherever it stands. -/
def isDropped (c : Char) : Bool :=
  c == '\t' || c == '\n' || c == '\r'

/-- Whether a character ends the path. -/
def endsPath (c : Char) : Bool :=
  c == '?' || c == '#'

/-- The characters of an address that count. -/
def clean (address : String) : List Char :=
  let trimmed := (address.toList.reverse.dropWhile fun c => c.toNat ≤ 32).reverse
  trimmed.filter fun c => !isDropped c

/-- The part of an address that is its path. -/
def pathPart (address : String) : List Char :=
  (clean address).takeWhile fun c => !endsPath c

/-- The part of an address that is its query: from a question mark that ends the path up to a hash
sign. -/
def queryPart (address : String) : List Char :=
  match (clean address).dropWhile fun c => !endsPath c with
  | '?' :: cs => cs.takeWhile (· != '#')
  | _ => []

/-- A text of a query as it is meant: a plus sign stands for a blank. -/
def meant (cs : List Char) : String :=
  Text.Utf8.decodeLossy (decode (cs.map fun c => if c = '+' then ' ' else c))

/-- The names and values in the query of an address. -/
def query (address : String) : List (String × String) :=
  let pairs := (Text.split '&' (queryPart address)).filter (· ≠ [])
  pairs.map fun pair =>
    (meant (pair.takeWhile (· != '=')), meant ((pair.dropWhile (· != '=')).drop 1))

/-- A part with the written forms of its dots replaced, if it consists of dots. -/
def dots (part : List Char) : Option Nat :=
  match decode part with
  | [46] => some 1
  | [46, 46] => some 2
  | _ => none

/-- Walks parts, given the ones passed, last one first. A walk that ends in dots ends with an empty
part. -/
def walk : List (List Char) → List (List Char) → List (List Char)
  | passed, [] => passed.reverse
  | passed, part :: rest =>
    let close (passed : List (List Char)) : List (List Char) :=
      if rest = [] then [] :: passed else passed
    match dots part with
    | some 1 => walk (close passed) rest
    | some _ => walk (close passed.tail) rest
    | none => walk (part :: passed) rest

/-- The path that is seen at an address, which begins with a slash. -/
def seen (address : String) : String :=
  let parts := (Text.split '/' (pathPart address)).drop 1
  let walked := (walk [] parts).flatMap fun part => '/' :: part
  Text.Utf8.decodeLossy (decode walked)

end ImageBuild.Target
