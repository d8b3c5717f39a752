import ImageBuild.Text.Quoted

/-!
# Writing JSON

The compact form of strings, truth values, lists and objects. A string escapes quotes, backslashes
and control characters, and nothing else.
-/

namespace ImageBuild.Json

/-- The escape of a control character without a short form. -/
def controlEscape (c : Char) : List Char :=
  let digits := Text.hexDigits c.toNat
  '\\' :: 'u' :: (List.replicate (4 - digits.length) '0' ++ digits)

/-- How a character stands within a string. -/
def writtenChar (c : Char) : List Char :=
  if c = '"' then ['\\', '"']
  else if c = '\\' then ['\\', '\\']
  else if c = '\x08' then ['\\', 'b']
  else if c = '\x0c' then ['\\', 'f']
  else if c = '\n' then ['\\', 'n']
  else if c = '\r' then ['\\', 'r']
  else if c = '\t' then ['\\', 't']
  else if c.toNat < 32 then controlEscape c
  else [c]

/-- The characters of a written string. -/
def writtenText (s : String) : List Char :=
  '"' :: (s.toList.flatMap writtenChar ++ ['"'])

/-- Written texts with commas between them. -/
def separated : List (List Char) → List Char
  | [] => []
  | [item] => item
  | item :: items => item ++ ',' :: separated items

/-- A written list. -/
def writtenList (items : List (List Char)) : List Char :=
  '[' :: (separated items ++ [']'])

/-- A written object, by the names and written values of its members. -/
def writtenObject (members : List (String × List Char)) : List Char :=
  '\x7b' :: (separated (members.map fun (name, value) => writtenText name ++ ':' :: value) ++
    ['\x7d'])

/-- A written truth value. -/
def writtenBoolean (b : Bool) : List Char :=
  if b then ['t', 'r', 'u', 'e'] else ['f', 'a', 'l', 's', 'e']

/-- A written natural number. -/
def writtenNatural (n : Nat) : List Char :=
  Nat.toDigits 10 n

end ImageBuild.Json
