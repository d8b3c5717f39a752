import ImageBuild.Git.Snapshot
import ImageBuild.Text.Split

/-!
# Merging

Two versions of a file that come from the same base are merged line by line: the changes of both are
taken over if no two of them touch. `Snapshot.merge` merges all files of two snapshots that come from
a third one, and lists the paths where that is not possible. A file that one side renames takes over
the changes that the other side makes under the old name.
-/

namespace ImageBuild.Git

/-! ## Lines -/

/-- A line with the line feed at its end, if it has one. -/
abbrev Line := List UInt8

/-- The lines of a text. -/
def linesOf (content : List UInt8) : List Line :=
  match (Text.split 10 content).reverse with
  | [] => []
  | last :: before =>
    (before.reverse.map (· ++ [10])) ++ if last = [] then [] else [last]

/-- The lengths of the longest common parts of a list with all ends of another one, given those for
the list without its first line. -/
def commonRow (x : Line) : List Line → List Nat → List Nat
  | [], _ => [0]
  | y :: ys, below =>
    let row := commonRow x ys below.tail
    (if x = y then below.tail.headD 0 + 1 else max (below.headD 0) (row.headD 0)) :: row

/-- The lengths of the longest common parts of all ends of two lists, row by row. -/
def commonTable (ys : List Line) : List Line → List (List Nat)
  | [] => [List.replicate (ys.length + 1) 0]
  | x :: xs =>
    let table := commonTable ys xs
    commonRow x ys (table.headD []) :: table

/-- A change: how many lines of the base it replaces from which one on, and by what. -/
structure Hunk where
  start : Nat
  count : Nat
  lines : List Line
  deriving DecidableEq, Repr

/-- The line behind a change. -/
def Hunk.finish (h : Hunk) : Nat := h.start + h.count

/-- Adds a change to those behind it. -/
def Hunk.add (h : Hunk) : List Hunk → List Hunk
  | [] => [h]
  | next :: rest =>
    if h.finish = next.start then ⟨h.start, h.count + next.count, h.lines ++ next.lines⟩ :: rest
    else h :: next :: rest

/-- The changes that lead from one list of lines to another one, the first of which stands at a given
line of the base. The table of the common parts is passed along; the first argument bounds the number
of steps. -/
def changesFrom : Nat → Nat → List (List Nat) → List Line → List Line → List Hunk
  | 0, _, _, _, _ => []
  | _, _, _, [], [] => []
  | _, line, _, [], ys => [⟨line, 0, ys⟩]
  | _, line, _, xs, [] => [⟨line, xs.length, []⟩]
  | fuel + 1, line, table, x :: xs, y :: ys =>
    let here := table.headD []
    let below := table.tail.headD []
    if x = y then changesFrom fuel (line + 1) (table.tail.map List.tail) xs ys
    else if here.tail.headD 0 ≤ below.headD 0 then
      Hunk.add ⟨line, 1, []⟩ (changesFrom fuel (line + 1) table.tail xs (y :: ys))
    else Hunk.add ⟨line, 0, [y]⟩ (changesFrom fuel line (table.map List.tail) (x :: xs) ys)

/-- How many lines two lists begin with together. -/
def commonStart : List Line → List Line → Nat
  | x :: xs, y :: ys => if x = y then commonStart xs ys + 1 else 0
  | _, _ => 0

/-- The changes that lead from one list of lines to another one. -/
def changes (xs ys : List Line) : List Hunk :=
  let n := commonStart xs ys
  let (xs, ys) := (xs.drop n, ys.drop n)
  let m := commonStart xs.reverse ys.reverse
  let (xs, ys) := (xs.take (xs.length - m), ys.take (ys.length - m))
  changesFrom (xs.length + ys.length + 1) n (commonTable ys xs) xs ys

/-- Lines of the base from one line up to another one. -/
def slice (base : List Line) (first last : Nat) : List Line :=
  (base.drop first).take (last - first)

/-- The lines of a region of the base after changes in it. -/
def applied (base : List Line) (first last : Nat) : List Hunk → List Line
  | [] => slice base first last
  | h :: rest => slice base first h.start ++ h.lines ++ applied base h.finish last rest

/-- The part of two lists of changes that lies together: it grows as long as a change touches it. The
first argument bounds the number of changes. -/
def region : Nat → Nat → List Hunk → List Hunk →
    Nat × (List Hunk × List Hunk) × (List Hunk × List Hunk)
  | 0, last, ours, theirs => (last, ([], []), (ours, theirs))
  | fuel + 1, last, ours, theirs =>
    match ours, theirs with
    | h :: ours', theirs =>
      if h.start ≤ last then
        let (last, (a, b), rest) := region fuel (max last h.finish) ours' theirs
        (last, (h :: a, b), rest)
      else
        match theirs with
        | k :: theirs' =>
          if k.start ≤ last then
            let (last, (a, b), rest) := region fuel (max last k.finish) (h :: ours') theirs'
            (last, (a, k :: b), rest)
          else (last, ([], []), (h :: ours', k :: theirs'))
        | [] => (last, ([], []), (h :: ours', []))
    | [], k :: theirs' =>
      if k.start ≤ last then
        let (last, (a, b), rest) := region fuel (max last k.finish) [] theirs'
        (last, (a, k :: b), rest)
      else (last, ([], []), ([], k :: theirs'))
    | [], [] => (last, ([], []), ([], []))

/-- One of two sides. -/
inductive Side
  | ours
  | theirs
  deriving DecidableEq, Repr

/-- The names that mark the sides of a disputed part, and the side that wins if one is to win. -/
structure Sides where
  ours : String
  theirs : String
  winner : Option Side

/-- Ends the last of some lines with a line feed. -/
def closed (lines : List Line) : List Line :=
  match lines.reverse with
  | [] => []
  | last :: before => (before.reverse) ++ [if last.getLast? = some 10 then last else last ++ [10]]

/-- A disputed part with its marks. -/
def disputed (sides : Sides) (ours theirs : List Line) : List Line :=
  let mark (s : String) : Line := Text.Utf8.encode (s ++ "\n")
  [mark ("<<<<<<< " ++ sides.ours)] ++ closed ours ++ [mark "======="] ++ closed theirs ++
    [mark (">>>>>>> " ++ sides.theirs)]

/-- A part of a merged text. -/
inductive Piece
  /-- Lines that both sides have. -/
  | same (lines : List Line)
  /-- Lines that one side has changed. -/
  | taken (lines : List Line)
  /-- Lines that both sides have changed. -/
  | disputed (ours theirs : List Line)
  deriving DecidableEq, Repr

/-- The parts in which two versions differ, with the lines between them. The first argument is the
number of the lines of the first version that are done. -/
def differences (ours : List Line) : Nat → List Hunk → List Piece
  | done, [] => [.same (ours.drop done)]
  | done, h :: rest =>
    .same (slice ours done h.start) :: .disputed (slice ours h.start h.finish) h.lines ::
      differences ours h.finish rest

/-- The parts of a disputed one that really differ. -/
def refined : Piece → List Piece
  | .disputed ours theirs =>
    if ours = [] || theirs = [] then [.disputed ours theirs]
    else differences ours 0 (changes ours theirs)
  | piece => [piece]

/-- Adds a part to those behind it: disputed parts with at most three lines between them become one. -/
def joinPiece (piece : Piece) (rest : List Piece) : List Piece :=
  match piece, rest with
  | .same a, .same b :: rest => .same (a ++ b) :: rest
  | .disputed a b, .disputed c d :: rest => .disputed (a ++ c) (b ++ d) :: rest
  | .disputed a b, .same lines :: .disputed c d :: rest =>
    if lines.length ≤ 3 then .disputed (a ++ lines ++ c) (b ++ lines ++ d) :: rest
    else .disputed a b :: .same lines :: .disputed c d :: rest
  | .same [], rest => rest
  | piece, rest => piece :: rest

/-- Merges changes from a line of the base on. The first argument bounds the number of changes. -/
def mergeChanges (base : List Line) : Nat → Nat → List Hunk → List Hunk → List Piece
  | 0, line, _, _ => [.same (base.drop line)]
  | fuel + 1, line, ours, theirs =>
    let next := match ours, theirs with
      | h :: _, k :: _ => some (if h.start ≤ k.start then h else k)
      | h :: _, [] => some h
      | [], k :: _ => some k
      | [], [] => none
    match next with
    | none => [.same (base.drop line)]
    | some h =>
      let (last, (a, b), (ours, theirs)) :=
        region (ours.length + theirs.length) h.finish ours theirs
      let left := applied base h.start last a
      let right := applied base h.start last b
      let piece :=
        if a = [] then Piece.taken right
        else if b = [] then .taken left
        else if left = right then .same left
        else .disputed left right
      .same (slice base line h.start) :: piece :: mergeChanges base fuel last ours theirs

/-- Merges two versions of a text: the text, and whether parts of it are disputed. -/
def mergeText (sides : Sides) (base ours theirs : List UInt8) : List UInt8 × Bool :=
  if ours = theirs || base = theirs then (ours, false)
  else if base = ours then (theirs, false)
  else if (base ++ ours ++ theirs).contains 0 then (ours, true)
  else
    let lines := linesOf base
    let a := changes lines (linesOf ours)
    let b := changes lines (linesOf theirs)
    let pieces := ((mergeChanges lines (a.length + b.length + 1) 0 a b).flatMap refined).foldr
      joinPiece []
    let texts := pieces.map fun
      | .same lines => (lines, false)
      | .taken lines => (lines, false)
      | .disputed ours theirs =>
        match sides.winner with
        | none => (disputed sides ours theirs, true)
        | some .ours => (ours, false)
        | some .theirs => (theirs, false)
    ((texts.flatMap (·.1)).flatten, texts.any (·.2))

/-! ## Files -/

/-- Merges two versions of a file: the version that stands in the directory afterwards, and whether
it is disputed. -/
def mergeFile (sides : Sides) (base ours theirs : Option Tracked) : Option Tracked × Bool :=
  if ours = theirs || base = theirs then (ours, false)
  else if base = ours then (theirs, false)
  else
    match base, ours, theirs with
    | some (.file b bx), some (.file o ox), some (.file t tx) =>
      let (content, dispute) := mergeText sides b o t
      (some (.file content (if ox = bx then tx else ox)), dispute)
    | none, some (.file o ox), some (.file t tx) =>
      let (content, dispute) := mergeText sides [] o t
      (some (.file content ox), dispute || ox != tx)
    | _, some o, none => (some o, true)
    | _, none, some t => (some t, true)
    | _, o, _ => (o, true)

/-- The result of merging snapshots: the files that are merged, and the disputed paths with what
stands in the directory there. -/
structure Merged where
  snapshot : Snapshot
  disputes : List (List Name × Option Tracked)

/-- How many bytes of lines two texts have in common. -/
def commonBytes : List Line → List Line → Nat
  | [], _ => 0
  | x :: xs, ys => if ys.contains x then x.length + commonBytes xs (ys.erase x) else commonBytes xs ys

/-- How alike two files are, in percent of the longer one. -/
def likeness : Tracked → Tracked → Nat
  | .file a _, .file b _ =>
    if a = b then 100
    else
      let size := max a.length b.length
      if size = 0 then 0 else commonBytes (linesOf a) (linesOf b) * 100 / size
  | .link a, .link b => if a = b then 100 else 0
  | _, _ => 0

/-- The new path of a file that a side has under another name. -/
def renamedTo? (base side : Snapshot) (path : List Name) : Option (List Name) :=
  match base.lookup path with
  | none => none
  | some old =>
    if (side.lookup path).isSome then none
    else
      let candidates := (side.filter fun (p, _) => (base.lookup p).isNone).map fun (p, tracked) =>
        (p, likeness old tracked)
      (candidates.foldl (fun (best : Option (List Name × Nat)) c =>
        match best with
        | none => if 50 ≤ c.2 then some c else none
        | some b => if b.2 < c.2 then some c else some b) none).map (·.1)

/-- The paths at which both sides are taken to have a file of the base: old path, path of ours, path
of theirs. -/
def moves (base ours theirs : Snapshot) : List (List Name × List Name × List Name) :=
  base.filterMap fun (path, tracked) =>
    let here := renamedTo? base ours path
    let there := renamedTo? base theirs path
    match here, there with
    | some q, none =>
      match theirs.lookup path with
      | some t => if t = tracked then none else some (path, q, path)
      | none => none
    | none, some q =>
      match ours.lookup path with
      | some o => if o = tracked then none else some (path, path, q)
      | none => none
    | _, _ => none

/-- Merges two snapshots that come from a third one. -/
def Snapshot.merge (sides : Sides) (base ours theirs : Snapshot) : Merged :=
  let moved := moves base ours theirs
  let skipped := moved.flatMap fun (path, p, q) => [path, p, q]
  let paths := ((base ++ ours ++ theirs).map (·.1)).eraseDups.filter fun p => !skipped.contains p
  let results := (paths.map fun p =>
      (p, mergeFile sides (base.lookup p) (ours.lookup p) (theirs.lookup p))) ++
    moved.map fun (path, p, q) =>
      let goal := if p = path then q else p
      let other := if p = path then ours else theirs
      let (version, dispute) := mergeFile sides (base.lookup path) (ours.lookup p) (theirs.lookup q)
      (goal, version, dispute || (other.lookup goal).isSome)
  { snapshot := results.filterMap fun (p, version, dispute) =>
      if dispute then none else version.map fun tracked => (p, tracked)
    disputes := results.filterMap fun (p, version, dispute) =>
      if dispute then some (p, version) else none }

end ImageBuild.Git
