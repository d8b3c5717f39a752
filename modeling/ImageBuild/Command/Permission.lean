import ImageBuild.FileSystem.Basic
import ImageBuild.Text.Numeral
import ImageBuild.Text.Split

/-!
# Permissions as commands write them

Permissions are written as an octal number or as changes: whom they are about, whether they are set,
added or taken away, and which ones.
-/

namespace ImageBuild.Programs.Permission

/-- The permissions without those of a mask. -/
def without (mode mask : Mode) : Mode := mode - (mode &&& mask)

/-- The permissions of a letter, for everyone. -/
def bits? (before : Mode) (isDir : Bool) : Char → Option Mode
  | 'r' => some 0o444
  | 'w' => some 0o222
  | 'x' => some 0o111
  | 'X' => some (if isDir || before &&& 0o111 ≠ 0 then 0o111 else 0)
  | 's' => some 0o6000
  | 't' => some 0o1000
  | 'u' => some ((before >>> 6 &&& 7) * 0o111)
  | 'g' => some ((before >>> 3 &&& 7) * 0o111)
  | 'o' => some ((before &&& 7) * 0o111)
  | _ => none

/-- The permissions that a letter is about. -/
def who? : Char → Option Mode
  | 'u' => some 0o4700
  | 'g' => some 0o2070
  | 'o' => some 0o1007
  | 'a' => some 0o7777
  | _ => none

/-- The union of permissions. -/
def union (modes : List Mode) : Mode := modes.foldl (· ||| ·) 0

/-- Permissions after changes to those of `who`, each a sign and letters. The third argument bounds the
number of changes. -/
def actions (isDir : Bool) (who : Mode) : Nat → List Char → Mode → Option Mode
  | _, [], mode => some mode
  | 0, _, _ => none
  | fuel + 1, sign :: cs, mode =>
    let letters := cs.takeWhile fun c => ! ['+', '-', '='].contains c
    match letters.mapM (bits? mode isDir) with
    | none => none
    | some given =>
      let given := union given &&& who
      let next :=
        if sign = '+' then some (mode ||| given)
        else if sign = '-' then some (without mode given)
        else if sign = '=' then some (without mode (who &&& 0o777) ||| given)
        else none
      match next with
      | some mode => actions isDir who fuel (cs.drop letters.length) mode
      | none => none

/-- Permissions after the changes that a text writes. Where it does not say whom they are about, those
of a mask do not change. -/
def changed? (mask : Mode) (isDir : Bool) (text : String) (mode : Mode) : Option Mode :=
  let cs := text.toList
  if cs ≠ [] && cs.all fun c => '0' ≤ c && c ≤ '7' then
    let (n, _, _) := Text.Numeral.digits 8 cs
    if n < 0o10000 then some n else none
  else
    (Text.split ',' cs).foldlM (fun mode clause =>
      let names := clause.takeWhile fun c => (who? c).isSome
      let who := if names = [] then without 0o7777 mask else union (names.filterMap who?)
      match clause.drop names.length with
      | [] => none
      | rest => actions isDir who rest.length rest mode) mode

/-- The letters of permissions. -/
def letters (n : Nat) : String :=
  String.ofList ((if n &&& 4 ≠ 0 then ['r'] else []) ++ (if n &&& 2 ≠ 0 then ['w'] else []) ++
    (if n &&& 1 ≠ 0 then ['x'] else []))

/-- Permissions in letters. -/
def text (mode : Mode) : String :=
  "u=" ++ letters (mode >>> 6) ++ ",g=" ++ letters (mode >>> 3) ++ ",o=" ++ letters mode

end ImageBuild.Programs.Permission
