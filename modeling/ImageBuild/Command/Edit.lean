import ImageBuild.Command.Search

/-!
# Editing lines

An editing script is a list of commands, each for the lines that its addresses choose. It is run once for
every line of a text, with the line as the `space` that the commands change, and a second space that they
may keep something in.
-/

namespace ImageBuild.Programs.Edit

/-- A line that a command is for. -/
inductive Address
  | line (n : Nat)
  | last
  | matching (fold : Bool) (e : Search)
  /-- Every line of a step from a first one on. -/
  | step (first size : Nat)
  deriving Repr

/-- A piece of what stands in the place of a match. -/
inductive Replacement
  | char (c : Char)
  /-- The match, or one of its groups. -/
  | group (n : Nat)
  deriving DecidableEq, Repr

/-- What a command does. -/
inductive Action
  | substitute (fold : Bool) (e : Search) (by_ : List Replacement) (all : Bool) (nth : Nat)
      (prints : Bool)
  | translate (pairs : List (Char × Char))
  | delete
  | print
  | printFirst
  | quit (prints : Bool) (code : Nat)
  | number
  | append (text : List Char)
  | insert (text : List Char)
  | change (text : List Char)
  | next
  | join
  /-- Copies between the spaces: `h`, `H`, `g`, `G` and `x`. -/
  | keep (letter : Char)
  | opening
  | closing
  deriving Repr

/-- A command, with the lines that it is for. -/
structure Instruction where
  first : Option Address
  last : Option Address
  negated : Bool
  action : Action

/-! ## Reading -/

/-- A text up to a separator, without the backslashes in front of separators, and what follows. -/
def upTo (sep : Char) : List Char → Option (List Char × List Char)
  | [] => none
  | '\\' :: c :: rest =>
    (upTo sep rest).map fun (cs, after) =>
      (if c = sep then c :: cs else '\\' :: c :: cs, after)
  | c :: rest =>
    if c = sep then some ([], rest) else (upTo sep rest).map fun (cs, after) => (c :: cs, after)

/-- The text of an expression up to a separator, which means nothing in brackets. -/
def expressionUpTo (sep : Char) : (inside : Bool) → List Char → Option (List Char × List Char)
  | _, [] => none
  | false, '\\' :: c :: rest =>
    (expressionUpTo sep false rest).map fun (cs, after) =>
      (if c = sep then c :: cs else '\\' :: c :: cs, after)
  | inside, c :: rest =>
    if c = sep && !inside then some ([], rest)
    else
      let next := if inside then c ≠ ']' else c = '['
      (expressionUpTo sep next rest).map fun (cs, after) => (c :: cs, after)

/-- The pieces of what stands in the place of a match. -/
def replacement : List Char → List Replacement
  | [] => []
  | '\\' :: c :: rest =>
    (if c.isDigit then .group (c.toNat - 48) else if c = 'n' then .char '\n'
      else if c = 't' then .char '\t' else .char c) :: replacement rest
  | '&' :: rest => .group 0 :: replacement rest
  | c :: rest => .char c :: replacement rest

/-- Whether a character is a blank. -/
def isGap (c : Char) : Bool := c == ' ' || c == '\t'

/-- The address at the start of a text, and what follows. -/
def address? (extended : Bool) (cs : List Char) : Option (Option Address × List Char) :=
  match cs with
  | '$' :: rest => some (some .last, rest)
  | '/' :: rest => do
    let (text, rest) ← expressionUpTo '/' false rest
    let e ← Search.ofText? extended text
    match rest with
    | 'I' :: rest => return (some (.matching true e), rest)
    | rest => return (some (.matching false e), rest)
  | cs =>
    let (n, size, rest) := Text.Numeral.digits 10 cs
    if size = 0 then some (none, cs)
    else
      match rest with
      | '~' :: rest =>
        let (m, _, rest) := Text.Numeral.digits 10 rest
        some (some (.step n m), rest)
      | rest => some (some (.line n), rest)

/-- The text of a command that adds lines, and what follows it. -/
def addedText (cs : List Char) : List Char × List Char :=
  let cs := cs.dropWhile isGap
  let cs :=
    match cs with
    | '\\' :: '\n' :: rest => rest
    | '\\' :: rest => rest
    | cs => cs
  let line := cs.takeWhile (· ≠ '\n')
  (line, cs.drop (line.length + 1))

/-- The action at the start of a text, and what follows. -/
def action? (extended : Bool) (c : Char) (rest : List Char) : Option (Action × List Char) :=
  match c with
  | 's' => do
    let sep ← rest.head?
    let (text, rest) ← expressionUpTo sep false (rest.drop 1)
    let (by_, rest) ← upTo sep rest
    let flags := rest.takeWhile fun c => c.isDigit || ['g', 'p', 'i', 'I'].contains c
    let e ← Search.ofText? extended text
    let nth := (Text.Numeral.digits 10 (flags.filter Char.isDigit)).1
    return (.substitute (flags.contains 'i' || flags.contains 'I') e (replacement by_)
      (flags.contains 'g') (max nth 1) (flags.contains 'p'), rest.drop flags.length)
  | 'y' => do
    let sep ← rest.head?
    let (old, rest) ← upTo sep (rest.drop 1)
    let (new, rest) ← upTo sep rest
    if old.length = new.length then return (.translate (old.zip new), rest) else none
  | 'd' => some (.delete, rest)
  | 'p' => some (.print, rest)
  | 'P' => some (.printFirst, rest)
  | 'q' | 'Q' =>
    let (n, _, rest) := Text.Numeral.digits 10 (rest.dropWhile isGap)
    some (.quit (c = 'q') n, rest)
  | '=' => some (.number, rest)
  | 'a' => some ((addedText rest).map .append id)
  | 'i' => some ((addedText rest).map .insert id)
  | 'c' => some ((addedText rest).map .change id)
  | 'n' => some (.next, rest)
  | 'N' => some (.join, rest)
  | '\x7b' => some (.opening, rest)
  | '\x7d' => some (.closing, rest)
  | c => if ['h', 'H', 'g', 'G', 'x'].contains c then some (.keep c, rest) else none

/-- The commands of a script. The second argument bounds their number. -/
def script? (extended : Bool) : Nat → List Char → Option (List Instruction)
  | 0, _ => none
  | fuel + 1, cs =>
    let cs := cs.dropWhile fun c => isGap c || c = '\n' || c = ';'
    match cs with
    | [] => some []
    | '#' :: rest => script? extended fuel (rest.dropWhile (· ≠ '\n'))
    | cs => do
      let (first, cs) ← address? extended cs
      let cs := cs.dropWhile isGap
      let (last, cs) ←
        match cs with
        | ',' :: rest => address? extended (rest.dropWhile isGap)
        | cs => some (none, cs)
      let cs := cs.dropWhile isGap
      let negated := cs.head? = some '!'
      let cs := if negated then (cs.drop 1).dropWhile isGap else cs
      match cs with
      | [] => none
      | c :: rest => do
        let (action, rest) ← action? extended c rest
        let more ← script? extended fuel rest
        return ⟨first, last, negated, action⟩ :: more

/-! ## Running -/

/-- The state of editing. -/
structure State where
  space : List Char
  kept : List Char
  line : Nat
  rest : List (List Char)
  out : Array (List Char)
  /-- Texts that follow the line. -/
  later : List (List Char)
  /-- The ranges that are open, by the places of their commands. -/
  ranges : List Nat
  /-- Whether the script is done with the line, and whether the space is still to be written. -/
  done : Option Bool
  /-- The code of the end, if it has come. -/
  ending : Option Nat

/-- Whether an address chooses the line. -/
def chooses (s : State) : Address → Bool
  | .line n => s.line = n
  | .last => s.rest = []
  | .matching fold e => e.occursIn fold s.space
  | .step first size => if size = 0 then s.line = first else first ≤ s.line && (s.line - first) % size = 0

/-- Whether a command at a place is for the line, and the state with its range. -/
def applies (s : State) (place : Nat) (i : Instruction) : Bool × State :=
  let (chosen, s) : Bool × State :=
    match i.first, i.last with
    | none, _ => (true, s)
    | some a, none => (chooses s a, s)
    | some a, some b =>
      if s.ranges.contains place then
        let past : Bool := match b with
          | .line n => n < s.line
          | _ => false
        let ended : Bool := past || chooses s b
        (!past || chooses s a,
          if ended then { s with ranges := s.ranges.filter (· ≠ place) } else s)
      else if chooses s a then
        let ended : Bool := match b with
          | .line n => n ≤ s.line
          | _ => false
        (true, if ended then s else { s with ranges := place :: s.ranges })
      else (false, s)
  (chosen != i.negated, s)

/-- The text of a replacement for a match. -/
def replaced (by_ : List Replacement) (text : List Char) (groups : List (Nat × List Char)) :
    List Char :=
  by_.flatMap fun
    | .char c => [c]
    | .group 0 => text
    | .group n => (groups.lookup n).getD []

/-- A text with matches replaced, from the one of a number on, and whether there was one. The first
argument bounds the number of matches. -/
def substituted (fold : Bool) (e : Search) (by_ : List Replacement) (all : Bool) :
    Nat → Nat → Search.Spot → List Char × Bool
  | 0, _, p => (p.rest, false)
  | fuel + 1, nth, p =>
    match e.find? fold p with
    | none => (p.rest, false)
    | some (before, text, q) =>
      let counts := nth ≤ 1
      let new := if counts then replaced by_ text q.groups else text
      if counts && !all then (before ++ new ++ q.rest, true)
      else
        let (stepped, p) : List Char × Search.Spot :=
          if text = [] then
            match q.rest with
            | c :: rest => ([c], ⟨some c, rest, []⟩)
            | [] => ([], ⟨some ' ', [], []⟩)
          else ([], ⟨q.before, q.rest, []⟩)
        if text = [] && q.rest = [] then (before ++ new, counts)
        else if text ≠ [] && q.rest = [] then (before ++ new, counts)
        else
          let (after, more) := substituted fold e by_ all fuel (nth - 1) p
          (before ++ new ++ stepped ++ after, counts || more)

/-- The commands behind the end of a group, the start of which is behind. -/
def skipGroup : Nat → List (Nat × Instruction) → List (Nat × Instruction)
  | _, [] => []
  | depth, (_, i) :: rest =>
    match i.action, depth with
    | .closing, 0 => rest
    | .closing, depth + 1 => skipGroup depth rest
    | .opening, depth => skipGroup (depth + 1) rest
    | _, _ => skipGroup depth rest

/-- Writes a line. -/
def State.write (s : State) (line : List Char) : State := { s with out := s.out.push line }

/-- Ends a line: what is to follow it is written. -/
def State.flush (s : State) : State :=
  { s with out := s.later.foldl Array.push s.out, later := [] }

/-- Takes the next line. -/
def State.advance (s : State) : State :=
  match s.rest with
  | line :: rest => { s with space := line, rest := rest, line := s.line + 1 }
  | [] => s

/-- Does what a command does. -/
def act (quiet : Bool) (s : State) : Action → State
  | .substitute fold e by_ all nth prints =>
    let (space, changed) := substituted fold e by_ all (s.space.length + 2) nth ⟨none, s.space, []⟩
    let s := { s with space := space }
    if changed && prints then s.write space else s
  | .translate pairs => { s with space := s.space.map fun c => (pairs.lookup c).getD c }
  | .delete => { s with done := some false }
  | .print => s.write s.space
  | .printFirst => s.write (s.space.takeWhile (· ≠ '\n'))
  | .quit prints code => { s with done := some prints, ending := some code }
  | .number => s.write (toString s.line).toList
  | .append text => { s with later := s.later ++ [text] }
  | .insert text => s.write text
  | .change text => { s.write text with done := some false }
  | .next =>
    if s.rest = [] then { s with done := some true, ending := some 0 }
    else ((if quiet then s else s.write s.space).flush).advance
  | .join =>
    match s.rest with
    | [] => { s with done := some true, ending := some 0 }
    | line :: rest =>
      { s with space := s.space ++ '\n' :: line, rest := rest, line := s.line + 1 }
  | .keep letter =>
    match letter with
    | 'h' => { s with kept := s.space }
    | 'H' => { s with kept := s.kept ++ '\n' :: s.space }
    | 'g' => { s with space := s.kept }
    | 'G' => { s with space := s.space ++ '\n' :: s.kept }
    | _ => { s with space := s.kept, kept := s.space }
  | .opening => s
  | .closing => s

/-- Runs commands on a line. The second argument bounds their number. -/
def runLine (quiet : Bool) : Nat → List (Nat × Instruction) → State → State
  | 0, _, s => s
  | _, [], s => s
  | fuel + 1, (place, i) :: rest, s =>
    let (chosen, s) := applies s place i
    if chosen then
      let s := act quiet s i.action
      if s.done.isSome then s else runLine quiet fuel rest s
    else
      match i.action with
      | .opening => runLine quiet fuel (skipGroup 0 rest) s
      | _ => runLine quiet fuel rest s

/-- Runs a script on all lines that are left. The second argument bounds their number. -/
def runLines (quiet : Bool) (script : List (Nat × Instruction)) : Nat → State → State
  | 0, s => s
  | fuel + 1, s =>
    if s.rest = [] || s.ending.isSome then s
    else
      let s := runLine quiet script.length script { s.advance with done := none }
      let s := if s.done.getD true && !quiet then s.write s.space else s
      runLines quiet script fuel s.flush

/-- The lines of a text, and whether the last one has an end. -/
def linesOf (cs : List Char) : List (List Char) × Bool :=
  if cs = [] then ([], true)
  else
    match (Text.split '\n' cs).reverse with
    | [] :: lines => (lines.reverse, true)
    | lines => (lines.reverse, false)

/-- What a script makes of a text, and the code that it ends with. -/
def run (quiet : Bool) (script : List Instruction) (cs : List Char) : List Char × Nat :=
  let (lines, ended) := linesOf cs
  let numbered := (List.range script.length).zip script
  let s := runLines quiet numbered (lines.length + 1)
    ⟨[], [], 0, lines, #[], [], [], none, none⟩
  let out := s.out.toList
  let text := ['\n'].intercalate out
  let closed := ended || s.rest ≠ []
  (if out = [] then [] else if closed then text ++ ['\n'] else text, s.ending.getD 0)

end ImageBuild.Programs.Edit
