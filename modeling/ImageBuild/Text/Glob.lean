/-!
# Globs

A glob is a text in which a star stands for any characters, a question mark for one character and
brackets for one character of a set. A character that is quoted stands for itself.
-/

namespace ImageBuild.Text

/-- Some characters. -/
inductive CharRange
  | between (first last : Char)
  /-- The characters of a kind that has a name. -/
  | kind (name : String)
  deriving DecidableEq, Repr

/-- A character of ASCII that is a mark. -/
def isMark (c : Char) : Bool :=
  33 ≤ c.toNat && c.toNat ≤ 126 && !c.isAlphanum

/-- Whether a character of ASCII is of a kind. -/
def isOfKind (c : Char) : String → Bool
  | "alpha" => c.isAlpha
  | "digit" => c.isDigit
  | "alnum" => c.isAlphanum
  | "upper" => c.isUpper
  | "lower" => c.isLower
  | "space" => c == ' ' || (9 ≤ c.toNat && c.toNat ≤ 13)
  | "blank" => c == ' ' || c == '\t'
  | "punct" => isMark c
  | "print" => 32 ≤ c.toNat && c.toNat ≤ 126
  | "graph" => 33 ≤ c.toNat && c.toNat ≤ 126
  | "cntrl" => c.toNat < 32 || c.toNat == 127
  | "xdigit" => c.isDigit || ('a' ≤ c && c ≤ 'f') || ('A' ≤ c && c ≤ 'F')
  | _ => false

/-- Whether a range holds a character. -/
def CharRange.holds (c : Char) : CharRange → Bool
  | .between first last => first ≤ c && c ≤ last
  | .kind name => isOfKind c name

/-- A part of a glob. -/
inductive GlobItem
  | char (c : Char)
  | any
  | many
  | set (negated : Bool) (ranges : List CharRange)
  deriving DecidableEq, Repr

/-- A glob. -/
abbrev Glob := List GlobItem

namespace Glob

/-- The name of a kind of characters, with colons and a bracket behind it, and what follows. -/
def kindName? : List (Char × Bool) → Option (List Char × List (Char × Bool))
  | (':', false) :: (']', false) :: rest => some ([], rest)
  | (c, _) :: rest =>
    if c.isAlpha then (kindName? rest).map fun (name, rest) => (c :: name, rest) else none
  | [] => none

/-- The ranges of a bracketed set, and what follows the set. The first argument bounds the number of
characters, the second one says whether a closing bracket still stands for itself. -/
def ranges? : Nat → Bool → List (Char × Bool) → Option (List CharRange × List (Char × Bool))
  | 0, _, _ => none
  | _, _, [] => none
  | fuel + 1, first, (c, quoted) :: rest =>
    if c = ']' && !quoted && !first then some ([], rest)
    else
      let single : Option (List CharRange × List (Char × Bool)) :=
        match rest with
        | ('-', false) :: (last, lastQuoted) :: after =>
          if last = ']' && !lastQuoted then
            (ranges? fuel false rest).map fun (ranges, rest) => (.between c c :: ranges, rest)
          else (ranges? fuel false after).map fun (ranges, rest) => (.between c last :: ranges, rest)
        | _ => (ranges? fuel false rest).map fun (ranges, rest) => (.between c c :: ranges, rest)
      match c, quoted, rest with
      | '[', false, (':', false) :: after =>
        match kindName? after with
        | some (name, after) =>
          (ranges? fuel false after).map fun (ranges, rest) =>
            (.kind (String.ofList name) :: ranges, rest)
        | none => single
      | _, _, _ => single

/-- The glob that characters write, each with whether it is quoted. The first argument bounds their
number. -/
def ofMarkedSteps : Nat → List (Char × Bool) → Glob
  | 0, _ => []
  | _, [] => []
  | fuel + 1, (c, true) :: rest => .char c :: ofMarkedSteps fuel rest
  | fuel + 1, ('*', false) :: rest => .many :: ofMarkedSteps fuel rest
  | fuel + 1, ('?', false) :: rest => .any :: ofMarkedSteps fuel rest
  | fuel + 1, ('[', false) :: rest =>
    let (negated, set) :=
      match rest with
      | ('!', false) :: set => (true, set)
      | ('^', false) :: set => (true, set)
      | set => (false, set)
    match ranges? (set.length + 1) true set with
    | some (ranges, rest) => .set negated ranges :: ofMarkedSteps fuel rest
    | none => .char '[' :: ofMarkedSteps fuel rest
  | fuel + 1, (c, false) :: rest => .char c :: ofMarkedSteps fuel rest

/-- The glob that characters write, each with whether it is quoted. -/
def ofMarked (cs : List (Char × Bool)) : Glob :=
  ofMarkedSteps (cs.length + 1) cs

/-- Whether a glob is nothing but characters. -/
def isPlain (g : Glob) : Bool :=
  g.all fun
    | .char _ => true
    | _ => false

/-- Whether a glob matches a text. -/
def holds : Glob → List Char → Bool
  | [], cs => cs = []
  | .many :: items, [] => holds items []
  | .many :: items, c :: cs => holds items (c :: cs) || holds (.many :: items) cs
  | _ :: _, [] => false
  | .char d :: items, c :: cs => d == c && holds items cs
  | .any :: items, _ :: cs => holds items cs
  | .set negated ranges :: items, c :: cs =>
    (ranges.any (·.holds c)) != negated && holds items cs
termination_by items cs => items.length + cs.length

end Glob

end ImageBuild.Text
