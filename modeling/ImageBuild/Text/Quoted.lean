import ImageBuild.Text.Unprintable

/-!
# Quoted text

Messages show a text or a path between double quotes. A quote and a backslash get a backslash, the
common controls have short names, other characters without a visible form are written by their
number, and everything else stands for itself.
-/

namespace ImageBuild.Text

/-- The lower case hexadecimal digits of a number, without leading zeros. -/
def hexDigits (n : Nat) : List Char :=
  Nat.toDigits 16 n

/-- How a character stands between double quotes. -/
def quotedChar (c : Char) : List Char :=
  if c = '"' then ['\\', '"']
  else if c = '\\' then ['\\', '\\']
  else if c = '\t' then ['\\', 't']
  else if c = '\n' then ['\\', 'n']
  else if c = '\r' then ['\\', 'r']
  else if c = '\x00' then ['\\', '0']
  else if isUnprintable c then
    '\\' :: 'u' :: '\x7b' :: (hexDigits c.toNat ++ ['\x7d'])
  else [c]

/-- A text between double quotes. -/
def quoted (s : String) : String :=
  String.ofList ('"' :: (s.toList.flatMap quotedChar ++ ['"']))

/-- Texts between brackets, separated by commas: the shown form of a set. -/
def quotedSet (items : List String) : String :=
  "\x7b" ++ ", ".intercalate (items.map quoted) ++ "\x7d"

/-- An optional text as it is shown. -/
def quotedOption : Option String → String
  | none => "None"
  | some s => "Some(" ++ quoted s ++ ")"

/-- A truth value as it is shown. -/
def shownBool (b : Bool) : String :=
  if b then "true" else "false"

/-- A structure as it is shown, by its name and the shown values of its fields. -/
def shownStructure (name : String) (fields : List (String × String)) : String :=
  name ++ " \x7b " ++ ", ".intercalate (fields.map fun (field, value) => field ++ ": " ++ value) ++
    " \x7d"

end ImageBuild.Text
