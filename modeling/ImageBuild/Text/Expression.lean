import ImageBuild.Text.Alphanumeric
import ImageBuild.Text.Blank
import ImageBuild.Text.Joining

/-!
# Regular expressions

`Expression.ofText?` reads the written form of a regular expression. Characters stand for themselves,
a point for all characters, brackets for one of some characters; there are groups, choices,
repetitions (greedy, or lazy with a question mark behind them) and anchors. Repetitions with a count
are no expressions here, and neither are word boundaries.
-/

namespace ImageBuild.Text

/-- A set of characters. -/
inductive CharClass
  | range (first last : Char)
  | digit
  | word
  | blank
  | either (a b : CharClass)
  | outside (a : CharClass)
  deriving DecidableEq, Repr

namespace CharClass

/-- The set of one character. -/
def just (c : Char) : CharClass := .range c c

/-- All characters. -/
def all : CharClass := .range '\x00' (Char.ofNat 0x10FFFF)

/-- All characters but the line feed. -/
def point : CharClass := .outside (.just '\n')

/-- Whether a character belongs to a set. -/
def holds : CharClass → Char → Bool
  | .range first last, c => first.toNat ≤ c.toNat && c.toNat ≤ last.toNat
  | .digit, c => c.isDigit
  | .word, c => c == '_' || isAlphanumeric c || isJoining c
  | .blank, c => isBlank c
  | .either a b, c => a.holds c || b.holds c
  | .outside a, c => !a.holds c

/-- The sets with a name of their own. -/
def named : List (String × CharClass) :=
  let letters := CharClass.either (.range 'a' 'z') (.range 'A' 'Z')
  [("alnum", .either letters .digit), ("alpha", letters), ("digit", .digit),
   ("lower", .range 'a' 'z'), ("upper", .range 'A' 'Z'), ("space", .either (.just ' ') (.range '\t' '\r')),
   ("blank", .either (.just ' ') (.just '\t')), ("word", .either (.either letters .digit) (.just '_')),
   ("graph", .range '!' '~'), ("print", .range ' ' '~'),
   ("cntrl", .either (.range '\x00' '\x1f') (.just '\x7f')),
   ("xdigit", .either .digit (.either (.range 'a' 'f') (.range 'A' 'F'))),
   ("punct", .either (.either (.range '!' '/') (.range ':' '@'))
      (.either (.range '[' '\x60') (.range '\x7b' '~')))]

end CharClass

/-- A regular expression. -/
inductive Expression
  | empty
  | letter (set : CharClass)
  /-- The start of the text. -/
  | start
  /-- The end of the text. -/
  | finish
  | sequence (a b : Expression)
  /-- One of two, the first one if both are possible. -/
  | choice (a b : Expression)
  /-- Any number of times: as often as possible, or as seldom. -/
  | repeated (greedy : Bool) (a : Expression)
  deriving DecidableEq, Repr

namespace Expression

/-- The value of a hexadecimal digit. -/
def hexValue? (c : Char) : Option Nat :=
  if c.isDigit then some (c.toNat - '0'.toNat)
  else if 'a' ≤ c ∧ c ≤ 'f' then some (c.toNat - 'a'.toNat + 10)
  else if 'A' ≤ c ∧ c ≤ 'F' then some (c.toNat - 'A'.toNat + 10)
  else none

/-- The character of hexadecimal digits, if it is one. -/
def hexChar? (digits : List Char) : Option Char :=
  match digits.foldl (fun n c => n.bind fun n => (hexValue? c).map (16 * n + ·)) (some 0) with
  | none => none
  | some n => if h : n.isValidChar then some (Char.ofNatAux n h) else none

/-- The character that is meant by a backslash and what follows, and the rest. -/
def escapedChar? : List Char → Option (Char × List Char)
  | 'n' :: cs => some ('\n', cs)
  | 't' :: cs => some ('\t', cs)
  | 'r' :: cs => some ('\r', cs)
  | 'f' :: cs => some ('\x0c', cs)
  | 'v' :: cs => some ('\x0b', cs)
  | 'a' :: cs => some ('\x07', cs)
  | 'x' :: a :: b :: cs => (hexChar? [a, b]).map fun c => (c, cs)
  | 'u' :: a :: b :: c :: d :: cs => (hexChar? [a, b, c, d]).map fun c => (c, cs)
  | c :: cs =>
    if c.toNat < 128 && !c.isAlphanum && !isBlank c && c != '<' && c != '>' && 32 ≤ c.toNat then
      some (c, cs)
    else none
  | [] => none

/-- The set that is meant by a backslash and a letter. -/
def escapedClass? : Char → Option CharClass
  | 'd' => some .digit
  | 'D' => some (.outside .digit)
  | 'w' => some .word
  | 'W' => some (.outside .word)
  | 's' => some .blank
  | 'S' => some (.outside .blank)
  | _ => none

/-- An item of a set: another set, or a character with which a range may begin. -/
inductive ClassItem
  | set (set : CharClass)
  | char (c : Char)

/-- Reads an item behind a backslash. -/
def escapedItem? (cs : List Char) : Option (ClassItem × List Char) :=
  match cs with
  | [] => none
  | c :: rest =>
    match escapedClass? c with
    | some set => some (.set set, rest)
    | none => (escapedChar? cs).map fun (c, rest) => (.char c, rest)

/-- Reads the name of a set behind its opening bracket and colon. -/
def namedClass? (cs : List Char) : Option (CharClass × List Char) :=
  let (negated, cs) :=
    match cs with
    | '^' :: cs => (true, cs)
    | cs => (false, cs)
  let name := cs.takeWhile Char.isAlpha
  match cs.drop name.length, CharClass.named.lookup (String.ofList name) with
  | ':' :: ']' :: rest, some set => some (if negated then .outside set else set, rest)
  | _, _ => none

/-- A set with another one, if there is one before it. -/
def joined (before : Option CharClass) (set : CharClass) : Option CharClass :=
  some (match before with
    | none => set
    | some a => .either a set)

/-- Reads the items of a set up to its closing bracket; the first argument bounds their number. -/
def classItems? : Nat → Option CharClass → List Char → Option (CharClass × List Char)
  | 0, _, _ => none
  | fuel + 1, before, cs =>
    let goOn (item : Option (ClassItem × List Char)) : Option (CharClass × List Char) :=
      match item with
      | none => none
      | some (.set set, rest) => classItems? fuel (joined before set) rest
      | some (.char first, '-' :: d :: rest) =>
        if d = ']' then classItems? fuel (joined before (.just first)) ('-' :: d :: rest)
        else if d = '-' then none
        else
          let last := if d = '\\' then escapedItem? rest else some (.char d, rest)
          match last with
          | some (.char last, rest) =>
            if last < first then none else classItems? fuel (joined before (.range first last)) rest
          | _ => none
      | some (.char c, rest) => classItems? fuel (joined before (.just c)) rest
    match cs with
    | [] => none
    | ']' :: rest =>
      match before with
      | some set => some (set, rest)
      | none => goOn (some (.char ']', rest))
    | '[' :: ':' :: rest =>
      match namedClass? rest with
      | some (set, rest) => classItems? fuel (joined before set) rest
      | none => none
    | '[' :: rest =>
      let (negated, rest) :=
        match rest with
        | '^' :: rest => (true, rest)
        | rest => (false, rest)
      match classItems? fuel none rest with
      | none => none
      | some (set, rest) =>
        classItems? fuel (joined before (if negated then .outside set else set)) rest
    | '&' :: '&' :: _ => none
    | '~' :: '~' :: _ => none
    | '-' :: rest =>
      match before, rest with
      | some _, '-' :: _ => none
      | _, _ => classItems? fuel (joined before (.just '-')) rest
    | '\\' :: rest => goOn (escapedItem? rest)
    | c :: rest => goOn (some (.char c, rest))

/-- Reads a set behind its opening bracket. -/
def class? (cs : List Char) : Option (CharClass × List Char) :=
  match cs with
  | '^' :: rest =>
    (classItems? (rest.length + 1) none rest).map fun (set, rest) => (.outside set, rest)
  | _ => classItems? (cs.length + 1) none cs

/-- The expression of an operator behind another expression. -/
def operator? (a : Expression) (greedy : Bool) : Char → Option Expression
  | '*' => some (.repeated greedy a)
  | '+' => some (.sequence a (.repeated greedy a))
  | '?' => some (if greedy then .choice a .empty else .choice .empty a)
  | _ => none

/-- Reads the operators behind an expression. -/
def operators (a : Expression) : List Char → Option (Expression × List Char)
  | [] => some (a, [])
  | c :: '?' :: cs =>
    match operator? a false c with
    | some a => operators a cs
    | none => if c = '\x7b' then none else some (a, c :: '?' :: cs)
  | c :: cs =>
    match operator? a true c with
    | some a => operators a cs
    | none => if c = '\x7b' then none else some (a, c :: cs)

/-- What is left behind the name of a group. -/
def behindName? (cs : List Char) : Option (List Char) :=
  let name := cs.takeWhile fun c => c == '_' || isAlphanumeric c
  match name, cs.drop name.length with
  | c :: _, '>' :: rest => if c.isDigit then none else some rest
  | _, _ => none

/-- Whether a letter sets an option that makes no difference for a text of one line. -/
def isIdleOption (c : Char) : Bool :=
  c == 's' || c == 'm' || c == 'u' || c == 'R'

/-- What is left behind the opening of a group, and whether the group is one of options only. -/
def groupOpening? : List Char → Option (Bool × List Char)
  | '?' :: ':' :: cs => some (false, cs)
  | '?' :: 'P' :: '<' :: cs => (behindName? cs).map (false, ·)
  | '?' :: '<' :: cs => (behindName? cs).map (false, ·)
  | '?' :: cs =>
    let letters := cs.takeWhile isIdleOption
    match letters, cs.drop letters.length with
    | _ :: _, ':' :: rest => some (false, rest)
    | _ :: _, ')' :: rest => some (true, rest)
    | _, _ => none
  | cs => some (false, cs)

/-- The expression of a backslash and what follows. -/
def escaped? (cs : List Char) : Option (Expression × List Char) :=
  match cs with
  | 'A' :: rest => some (.start, rest)
  | 'z' :: rest => some (.finish, rest)
  | _ =>
    match escapedItem? cs with
    | some (.set set, rest) => some (.letter set, rest)
    | some (.char c, rest) => some (.letter (.just c), rest)
    | none => none

/-- Reads choices up to the end or to the closing bracket of their group. `before` holds the choices
and `begun` the sequence read so far; the first argument bounds the number of steps. -/
def choices? : Nat → Option Expression → Option Expression → List Char →
    Option (Expression × List Char)
  | 0, _, _, _ => none
  | fuel + 1, before, begun, cs =>
    let closed (last : Option Expression) : Expression :=
      match before with
      | none => last.getD .empty
      | some a => .choice a (last.getD .empty)
    let goOn (atom : Option (Expression × List Char)) : Option (Expression × List Char) :=
      match atom with
      | none => none
      | some (a, rest) =>
        match operators a rest with
        | none => none
        | some (a, rest) =>
          choices? fuel before (some (match begun with
            | none => a
            | some b => .sequence b a)) rest
    match cs with
    | [] => some (closed begun, [])
    | c :: rest =>
      if c = ')' then some (closed begun, c :: rest)
      else if c = '|' then choices? fuel (some (closed begun)) none rest
      else if c = '(' then
        match groupOpening? rest with
        | none => none
        | some (true, rest) => choices? fuel before begun rest
        | some (false, rest) =>
          match choices? fuel none none rest with
          | some (a, ')' :: rest) => goOn (some (a, rest))
          | _ => none
      else if c = '[' then goOn ((class? rest).map fun (set, rest) => (.letter set, rest))
      else if c = '\\' then goOn (escaped? rest)
      else if c = '.' then goOn (some (.letter .point, rest))
      else if c = '^' then goOn (some (.start, rest))
      else if c = '$' then goOn (some (.finish, rest))
      else if c = '*' || c = '+' || c = '?' || c = '\x7b' then none
      else goOn (some (.letter (.just c), rest))

/-- The expression that a text writes. -/
def ofText? (s : String) : Option Expression :=
  match choices? (s.length + 1) none none s.toList with
  | some (a, []) => some a
  | _ => none

end Expression

end ImageBuild.Text
