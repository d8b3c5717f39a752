import ImageBuild.Git.History
import ImageBuild.Text.Split

/-!
# Names of commits

A commit is named by `HEAD`, a branch, a tag or the first digits of its name, with marks behind it
that lead to its ancestors. `isRefName` tells which names branches and tags may have.
-/

namespace ImageBuild.Git

/-- The characters that no name of a branch or a tag holds. -/
def forbidden (c : Char) : Bool :=
  c.toNat ≤ 32 || c.toNat == 127 || ['~', '^', ':', '?', '*', '[', '\\'].contains c

/-- Whether a text occurs in another one. -/
def occurs (part : List Char) : List Char → Bool
  | [] => part.isEmpty
  | c :: cs => part.isPrefixOf (c :: cs) || occurs part cs

/-- Whether a text may be the name of a branch or a tag. -/
def isRefName (name : String) : Bool :=
  let cs := name.toList
  let parts := Text.split '/' cs
  cs != [] && cs.head? != some '-' && cs.getLast? != some '.' && !cs.any forbidden &&
    !occurs ['.', '.'] cs && !occurs ['@', '\x7b'] cs && cs != ['@'] &&
    parts.all fun part =>
      part != [] && part.head? != some '.' && !".lock".toList.isSuffixOf part

/-- Whether a name can stand beside others: none of them may be a directory of the other one. -/
def fitsBeside (name : String) (others : List String) : Bool :=
  others.all fun other =>
    !(name.toList ++ ['/']).isPrefixOf other.toList &&
      !(other.toList ++ ['/']).isPrefixOf name.toList

/-- A mark behind the name of a commit. -/
inductive Mark
  /-- The ancestor after a number of steps to first parents. -/
  | ancestor (steps : Nat)
  /-- The parent of a number, or the commit itself for zero. -/
  | parent (number : Nat)
  /-- The commit that was checked out before, a number of times. -/
  | visited (times : Nat)
  deriving DecidableEq, Repr

/-- The number at the start of a text, one if there is none, and the rest. -/
def leadingNumber (default : Nat) (cs : List Char) : Nat × List Char :=
  let digits := cs.takeWhile Char.isDigit
  ((String.ofList digits).toNat?.getD default, cs.drop digits.length)

/-- Reads marks; the first argument bounds their number. -/
def marks? : Nat → List Char → Option (List Mark)
  | 0, _ => none
  | _, [] => some []
  | fuel + 1, '~' :: cs =>
    let (n, rest) := leadingNumber 1 cs
    (marks? fuel rest).map (.ancestor n :: ·)
  | fuel + 1, '^' :: '\x7b' :: cs =>
    match cs.dropWhile (· ≠ '\x7d') with
    | _ :: rest => marks? fuel rest
    | [] => none
  | fuel + 1, '^' :: cs =>
    let (n, rest) := leadingNumber 1 cs
    (marks? fuel rest).map (.parent n :: ·)
  | fuel + 1, '@' :: '\x7b' :: cs =>
    match leadingNumber 0 cs with
    | (n, '\x7d' :: rest) => (marks? fuel rest).map (.visited n :: ·)
    | _ => none
  | _, _ => none

namespace Repository

/-- The commit that a name without marks stands for. -/
def base? (r : Repository) (name : String) : Option String :=
  let tag? (name : String) : Option String :=
    (r.tags.find? fun t => t.name == name).map (·.target)
  let behind (start : String) : Option String :=
    if name.startsWith start then some (String.ofList (name.toList.drop start.length)) else none
  if name = "HEAD" || name = "@" then r.headId?
  else if name = "ORIG_HEAD" then r.origin
  else if name = "MERGE_HEAD" then r.pending.bind (·.parents.head?)
  else
    match behind "refs/tags/" |>.or (behind "tags/") with
    | some name => tag? name
    | none =>
      match behind "refs/heads/" |>.or (behind "heads/") with
      | some name => r.branches.lookup name
      | none =>
        (tag? name).or ((r.branches.lookup name).or
          (if name.length < 4 then none
          else
            match (r.commits.map (·.id)).eraseDups.filter (·.startsWith name.toLower) with
            | [id] => some id
            | _ => none))

/-- The commit that a mark leads to from another one. -/
def followMark (r : Repository) (id : String) : Mark → Option String
  | .ancestor 0 => some id
  | .ancestor (n + 1) =>
    match (r.parents id).head? with
    | some parent => r.followMark parent (.ancestor n)
    | none => none
  | .parent 0 => some id
  | .parent (n + 1) => (r.parents id)[n]?
  | .visited n => r.visited[n]?
/-- The name of a commit at the end of a description: the digits behind the last `-g`. -/
def describedId? (r : Repository) (text : String) : Option String :=
  match (Text.split '-' text.toList).reverse with
  | ('g' :: digits) :: _ :: _ => r.base? (String.ofList digits)
  | _ => none

/-- A name in which the mark for what was left before, some number of times, gives way to its name. -/
def expanded? (r : Repository) (text : String) : Option String :=
  match text.toList with
  | '@' :: '\x7b' :: '-' :: cs =>
    match leadingNumber 0 cs with
    | (n + 1, '\x7d' :: rest) => (r.departures[n]?).map (· ++ String.ofList rest)
    | _ => none
  | _ => some text

/-- A name; a dash stands for what was left last. -/
def expandDash (r : Repository) (text : String) : String :=
  if text = "-" then r.departures.headD "-" else (r.expanded? text).getD text

/-- The commit that a name with marks stands for. -/
def revision? (r : Repository) (text : String) : Option String :=
  let cs := ((r.expanded? text).getD "").toList
  let isMark (cs : List Char) : Bool :=
    match cs with
    | '~' :: _ => true
    | '^' :: _ => true
    | '@' :: '\x7b' :: _ => true
    | _ => false
  let length := ((List.range cs.length).find? fun k => isMark (cs.drop k)).getD cs.length
  match if cs = [] then none else marks? (cs.length + 1) (cs.drop length) with
  | none => none
  | some marks =>
    let name := if length = 0 then "HEAD" else String.ofList (cs.take length)
    marks.foldl (fun id mark => id.bind fun id => r.followMark id mark)
      ((r.base? name).or (r.describedId? name))

end Repository

end ImageBuild.Git
