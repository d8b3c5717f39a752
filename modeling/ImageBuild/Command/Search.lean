import ImageBuild.Text.Numeral
import ImageBuild.Text.Split

/-!
# Searching lines

The expressions of the programs that search and edit lines come in a basic and an extended form, which
differ in the characters that need a backslash. `Search.ofText?` reads both. A match is the first one in
a line, and of those the longest; `Spot` says where it has come to and what its groups hold.
-/

namespace ImageBuild.Programs

/-- A set of characters in brackets. -/
structure CharSet where
  negated : Bool
  ranges : List (Char × Char)
  deriving DecidableEq, Repr

/-- Whether a set holds a character. -/
def CharSet.holds (set : CharSet) (c : Char) : Bool :=
  (set.ranges.any fun (first, last) => first ≤ c && c ≤ last) != set.negated

/-- An expression. -/
inductive Search
  | empty
  | one (set : CharSet)
  | start
  | finish
  /-- A place between a character of a word and another one. -/
  | edge (begins ends : Bool)
  | sequence (a b : Search)
  | choice (a b : Search)
  | repeated (low : Nat) (high : Option Nat) (a : Search)
  | group (n : Nat) (a : Search)
  /-- What a group has matched. -/
  | same (n : Nat)
  deriving Repr

namespace Search

/-! ## Matching -/

/-- How far a match has come. -/
structure Spot where
  before : Option Char
  rest : List Char
  groups : List (Nat × List Char)

/-- A spot some characters further. -/
def Spot.skip (p : Spot) (n : Nat) : Spot :=
  match n with
  | 0 => p
  | n + 1 => { p with before := p.rest[n]?, rest := p.rest.drop (n + 1) }

/-- Whether a character belongs to words. -/
def isWordChar (c : Char) : Bool := c.isAlphanum || c == '_'

/-- The spots that repeating a step leads to, those with more rounds first. The third argument bounds
the number of rounds. -/
def rounds (step : Spot → List Spot) (low : Nat) : Nat → (high : Option Nat) → Spot → List Spot
  | 0, _, p => if low = 0 then [p] else []
  | fuel + 1, high, p =>
    let more :=
      if high = some 0 then []
      else
        (step p).flatMap fun q =>
          if q.rest.length = p.rest.length then []
          else rounds step (low - 1) fuel (high.map (· - 1)) q
    more ++ if low = 0 then [p] else if (step p).any (·.rest.length = p.rest.length) then [p] else []

/-- The spots that an expression leads to from a spot; `fold` says whether the case of letters does not
count. -/
def ends (fold : Bool) : Search → Spot → List Spot
  | .empty, p => [p]
  | .one set, p =>
    match p.rest with
    | c :: rest =>
      if set.holds c || (fold && (set.holds c.toLower || set.holds c.toUpper)) then
        [{ p with before := some c, rest := rest }]
      else []
    | [] => []
  | .start, p => if p.before.isNone then [p] else []
  | .finish, p => if p.rest = [] then [p] else []
  | .edge begins ends, p =>
    let left := p.before.any isWordChar
    let right := p.rest.head?.any isWordChar
    if (begins && !left && right) || (ends && left && !right) then [p] else []
  | .sequence a b, p => (ends fold a p).flatMap (ends fold b)
  | .choice a b, p => ends fold a p ++ ends fold b p
  | .repeated low high a, p => rounds (ends fold a) low (p.rest.length + 1) high p
  | .group n a, p =>
    (ends fold a p).map fun q =>
      let text := p.rest.take (p.rest.length - q.rest.length)
      { q with groups := (n, text) :: q.groups.filter (·.1 ≠ n) }
  | .same n, p =>
    match p.groups.lookup n with
    | some text => if text.isPrefixOf p.rest then [p.skip text.length] else []
    | none => []

/-- The longest match at a spot. -/
def longest? (fold : Bool) (e : Search) (p : Spot) : Option Spot :=
  (e.ends fold p).foldl (fun best q =>
    match best with
    | none => some q
    | some b => if q.rest.length < b.rest.length then some q else best) none

/-- The first match in a text from a spot on: what stands before it, its text and groups, and the spot
behind it. -/
def find? (fold : Bool) (e : Search) (p : Spot) : Option (List Char × List Char × Spot) :=
  match e.longest? fold p with
  | some q => some ([], p.rest.take (p.rest.length - q.rest.length), q)
  | none =>
    match _h : p.rest with
    | [] => none
    | c :: rest =>
      (find? fold e ⟨some c, rest, []⟩).map fun (before, text, q) => (c :: before, text, q)
termination_by p.rest.length
decreasing_by simp_all

/-- Whether an expression matches somewhere in a line. -/
def occursIn (fold : Bool) (e : Search) (line : List Char) : Bool :=
  (e.find? fold ⟨none, line, []⟩).isSome

/-! ## Reading -/

/-- The set of one character. -/
def just (c : Char) : CharSet := ⟨false, [(c, c)]⟩

/-- The sets with names. -/
def namedRanges : List (String × List (Char × Char)) :=
  [("alnum", [('a', 'z'), ('A', 'Z'), ('0', '9')]), ("alpha", [('a', 'z'), ('A', 'Z')]),
   ("digit", [('0', '9')]), ("lower", [('a', 'z')]), ("upper", [('A', 'Z')]),
   ("space", [(' ', ' '), ('\t', '\r')]), ("blank", [(' ', ' '), ('\t', '\t')]),
   ("punct", [('!', '/'), (':', '@'), ('[', '\x60'), ('\x7b', '~')]),
   ("xdigit", [('0', '9'), ('a', 'f'), ('A', 'F')]), ("print", [(' ', '~')]),
   ("graph", [('!', '~')]), ("cntrl", [('\x00', '\x1f'), ('\x7f', '\x7f')])]

/-- A token of an expression. -/
inductive Token
  | atom (e : Search)
  | repetition (low : Nat) (high : Option Nat)
  | opening
  | closing
  | bar

/-- The ranges of a set up to the bracket that ends it, and what follows. The first argument bounds
their number. -/
def bracketRanges : Nat → Bool → List Char → Option (List (Char × Char) × List Char)
  | 0, _, _ => none
  | _, _, [] => none
  | fuel + 1, first, ']' :: rest =>
    if first then (bracketRanges fuel false rest).map fun (rs, rest) => ((']', ']') :: rs, rest)
    else some ([], rest)
  | fuel + 1, _, '[' :: ':' :: rest =>
    let name := rest.takeWhile (· ≠ ':')
    match namedRanges.lookup (String.ofList name), rest.drop name.length with
    | some ranges, ':' :: ']' :: rest =>
      (bracketRanges fuel false rest).map fun (rs, rest) => (ranges ++ rs, rest)
    | _, _ => none
  | fuel + 1, _, a :: '-' :: b :: rest =>
    if b = ']' then
      (bracketRanges fuel false ('-' :: b :: rest)).map fun (rs, rest) => ((a, a) :: rs, rest)
    else (bracketRanges fuel false rest).map fun (rs, rest) => ((a, b) :: rs, rest)
  | fuel + 1, _, a :: rest =>
    (bracketRanges fuel false rest).map fun (rs, rest) => ((a, a) :: rs, rest)

/-- The bounds of a repetition up to the mark that ends it, and what follows. -/
def interval? (extended : Bool) (cs : List Char) : Option (Token × List Char) :=
  let (low, lowSize, rest) := Text.Numeral.digits 10 cs
  let (high, rest) :=
    match rest with
    | ',' :: rest =>
      let (high, size, rest) := Text.Numeral.digits 10 rest
      (if size = 0 then none else some high, rest)
    | rest => (some low, rest)
  let done (rest : List Char) : Option (Token × List Char) :=
    if lowSize = 0 && high = some 0 then none else some (.repetition low high, rest)
  match extended, rest with
  | true, '\x7d' :: rest => done rest
  | false, '\\' :: '\x7d' :: rest => done rest
  | _, _ => none

/-- The token that a backslash and a character write. -/
def escapedToken (extended : Bool) (c : Char) (rest : List Char) : Option (Token × List Char) :=
  let wordRanges := [('a', 'z'), ('A', 'Z'), ('0', '9'), ('_', '_')]
  let blankRanges := [(' ', ' '), ('\t', '\r')]
  if c.isDigit && c ≠ '0' then some (.atom (.same (c.toNat - 48)), rest)
  else
    match c with
    | 'w' => some (.atom (.one ⟨false, wordRanges⟩), rest)
    | 'W' => some (.atom (.one ⟨true, wordRanges⟩), rest)
    | 's' => some (.atom (.one ⟨false, blankRanges⟩), rest)
    | 'S' => some (.atom (.one ⟨true, blankRanges⟩), rest)
    | 'b' => some (.atom (.edge true true), rest)
    | '<' => some (.atom (.edge true false), rest)
    | '>' => some (.atom (.edge false true), rest)
    | 'n' => some (.atom (.one (just '\n')), rest)
    | 't' => some (.atom (.one (just '\t')), rest)
    | c =>
      if extended then some (.atom (.one (just c)), rest)
      else
        match c with
        | '(' => some (.opening, rest)
        | ')' => some (.closing, rest)
        | '|' => some (.bar, rest)
        | '+' => some (.repetition 1 none, rest)
        | '?' => some (.repetition 0 (some 1), rest)
        | '\x7b' => interval? false rest
        | c => some (.atom (.one (just c)), rest)

/-- The token at the start of a text, which is not empty; `first` says whether an expression begins
there. -/
def token? (extended first : Bool) (c : Char) (rest : List Char) : Option (Token × List Char) :=
  let plain : Option (Token × List Char) := some (.atom (.one (just c)), rest)
  match c with
  | '\\' =>
    match rest with
    | [] => none
    | c :: rest => escapedToken extended c rest
  | '.' => some (.atom (.one ⟨true, []⟩), rest)
  | '[' =>
    let (negated, items) :=
      match rest with
      | '^' :: items => (true, items)
      | items => (false, items)
    (bracketRanges (items.length + 1) true items).map fun (ranges, rest) =>
      (.atom (.one ⟨negated, ranges⟩), rest)
  | '^' => if extended || first then some (.atom .start, rest) else plain
  | '$' =>
    let last := rest = [] || rest.take 2 = ['\\', ')'] || rest.take 2 = ['\\', '|']
    if extended || last then some (.atom .finish, rest) else plain
  | '*' => if first then plain else some (.repetition 0 none, rest)
  | '+' => if extended && !first then some (.repetition 1 none, rest) else plain
  | '?' => if extended && !first then some (.repetition 0 (some 1), rest) else plain
  | '(' => if extended then some (.opening, rest) else plain
  | ')' => if extended then some (.closing, rest) else plain
  | '|' => if extended then some (.bar, rest) else plain
  | '\x7b' => if extended && !first then interval? true rest else plain
  | _ => plain

/-- The tokens of an expression. The first argument bounds their number. -/
def tokens? (extended : Bool) : Nat → Bool → List Char → Option (List Token)
  | _, _, [] => some []
  | 0, _, _ => none
  | fuel + 1, first, c :: rest =>
    match token? extended first c rest with
    | none => none
    | some (t, rest) =>
      let next :=
        match t with
        | .opening | .bar => true
        | .atom .start => !extended
        | _ => false
      (tokens? extended fuel next rest).map (t :: ·)

/-- An expression that is being read: the choices that are done, the sequence begun, its last part, and
the number of the group that it is. -/
structure Level where
  choices : Option Search
  sequence : Option Search
  last : Option Search
  group : Nat

/-- The sequence begun with its last part. -/
def Level.joined (l : Level) : Search :=
  match l.sequence, l.last with
  | none, none => .empty
  | some a, none => a
  | none, some b => b
  | some a, some b => .sequence a b

/-- What has been read. -/
def Level.whole (l : Level) : Search :=
  match l.choices with
  | none => l.joined
  | some a => .choice a l.joined

/-- Adds a part behind the last one. -/
def Level.add (l : Level) (e : Search) : Level :=
  { l with
    sequence := if l.sequence.isNone && l.last.isNone then none else some l.joined
    last := some e }

/-- Builds an expression from tokens, given the levels that are open and the number of groups. -/
def build : List Level → Nat → List Token → Option Search
  | [l], _, [] => some l.whole
  | _, _, [] => none
  | [], _, _ => none
  | l :: outer, n, t :: ts =>
    match t with
    | .atom e => build (l.add e :: outer) n ts
    | .repetition low high =>
      match l.last with
      | some e => build ({ l with last := some (.repeated low high e) } :: outer) n ts
      | none => none
    | .opening => build (⟨none, none, none, n + 1⟩ :: l :: outer) (n + 1) ts
    | .closing =>
      match outer with
      | [] => none
      | next :: outer => build (next.add (.group l.group l.whole) :: outer) n ts
    | .bar => build (⟨some l.whole, none, none, l.group⟩ :: outer) n ts

/-- The expression that a text writes. -/
def ofText? (extended : Bool) (cs : List Char) : Option Search :=
  match tokens? extended (cs.length + 1) true cs with
  | some ts => build [⟨none, none, none, 0⟩] 0 ts
  | none => none

/-- The expression of a text that stands for itself. -/
def literal (cs : List Char) : Search :=
  cs.foldr (fun c e => .sequence (.one (just c)) e) .empty

end Search

end ImageBuild.Programs
