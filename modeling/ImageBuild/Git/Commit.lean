import ImageBuild.Git.Revision

/-!
# Making commits

A commit is named by a hash over its snapshot, its parents, who made it and its message. Messages are
cleaned: no blanks at the ends of lines, no empty lines at the ends, and no two of them together.
-/

namespace ImageBuild.Git

/-- Whether a character counts as a blank in a message. -/
def isMessageBlank (c : Char) : Bool :=
  c == ' ' || c == '\t' || c == '\r' || c == '\n'

/-- Leaves one of several empty lines together. -/
def squeeze : List (List Char) → List (List Char)
  | [] :: [] :: lines => squeeze ([] :: lines)
  | line :: lines => line :: squeeze lines
  | [] => []

/-- A message as it is kept. -/
def cleanMessage (message : String) : String :=
  let lines := (Text.split '\n' message.toList).map fun line =>
    (line.reverse.dropWhile isMessageBlank).reverse
  let lines := lines.dropWhile (· = [])
  let lines := (lines.reverse.dropWhile (· = [])).reverse
  String.ofList ((squeeze lines).flatMap fun line => line ++ ['\n'])

/-- A text with a line feed at its end. -/
def completed (s : String) : String := if s.endsWith "\n" then s else s ++ "\n"

/-- The message of several paragraphs. -/
def paragraphs (parts : List String) : String :=
  "\n".intercalate (parts.map completed)

/-- The first line of a message. -/
def subject (message : String) : String :=
  String.ofList (message.toList.takeWhile (· ≠ '\n'))

/-- Who did something, as a commit writes it. -/
def Identity.signature (who : Identity) : String :=
  who.name ++ " <" ++ who.email ++ s!"> {who.seconds} +0000"

/-- The content of a commit object. -/
def commitContent (author who : Identity) (snapshot : Snapshot) (parents : List String)
    (message : String) : List UInt8 :=
  Text.Utf8.encode ("tree " ++ hexText snapshot.id ++ "\n" ++
    String.join (parents.map fun id => "parent " ++ id ++ "\n") ++
    "author " ++ author.signature ++ "\ncommitter " ++ who.signature ++ "\n\n" ++ message)

namespace Repository

/-- Points what is checked out to a commit. -/
def moveHead (r : Repository) (id : String) : Repository :=
  let r := { r with visited := id :: r.visited }
  match r.head with
  | .detached _ => { r with head := .detached id }
  | .branch name =>
    { r with branches := r.branches.filter (fun (n, _) => n ≠ name) ++ [(name, id)] }

/-- Checks out a branch or a commit without a look at files. -/
def attach (r : Repository) (head : Head) : Repository :=
  let stays := r.head = head && head = .detached head.name
  let departures := if stays then r.departures else r.head.name :: r.departures
  let r := { r with departures := departures, head := head, pending := none }
  { r with visited := r.headId?.toList ++ r.visited }

/-- Adds a commit and checks it out. -/
def addCommit (who : Identity) (r : Repository) (author : Identity) (parents : List String)
    (snapshot : Snapshot) (message : String) : Repository :=
  let id := hexText (objectId "commit" (commitContent author who snapshot parents message))
  { r with
    commits := r.commits ++ [Commit.mk id parents snapshot message author]
    pending := none }.moveHead id

end Repository

end ImageBuild.Git
