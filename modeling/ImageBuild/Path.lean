import ImageBuild.Text.Split

/-!
# Paths

A path is a list of steps from the root of the file system or from some directory: into a named
entry, up to the parent, or nowhere. `Path.normal?` cancels every name with the step up that undoes
it, without looking at any files; a path that climbs above its start has no normal form. A `Place`
is a path without links and without steps up, from the root.
-/

namespace ImageBuild

/-- The name of a directory entry. -/
abbrev Name := String

/-- The names on the way from the root of the file system to a node. -/
abbrev Place := List Name

/-- A step of a path. -/
inductive Step
  /-- Stay in this directory. -/
  | here
  /-- Go to the parent directory. -/
  | up
  /-- Go to the entry of a name. -/
  | name (n : Name)
  deriving DecidableEq, Repr

/-- A path from the root of the file system (`rooted`) or from a directory. -/
structure Path where
  rooted : Bool
  steps : List Step
  deriving DecidableEq, Repr

/-- The step that a part of a path between slashes stands for. -/
def Step.ofText (s : String) : Step :=
  if s = "." then .here else if s = ".." then .up else .name s

/-- The text of a step. -/
def Step.text : Step → String
  | .here => "."
  | .up => ".."
  | .name n => n

namespace Path

/-- The steps between the slashes of a path. Empty parts take no step; only a slash at the end does,
which asks for a directory. -/
def stepsOfParts : List String → List Step
  | [] => []
  | [last] => if last = "" then [.here] else [Step.ofText last]
  | part :: parts =>
    if part = "" then stepsOfParts parts else Step.ofText part :: stepsOfParts parts

/-- The path that a text writes. -/
def ofText (s : String) : Path :=
  if s = "" then ⟨false, []⟩
  else ⟨s.startsWith "/", stepsOfParts (Text.splitText '/' s)⟩

/-- The text of a path. -/
def text (p : Path) : String :=
  (if p.rooted then "/" else "") ++ "/".intercalate (p.steps.map Step.text)

/-- The path to a place. -/
def ofPlace (place : Place) : Path :=
  ⟨true, place.map .name⟩

/-- A path seen from the end of another one. -/
def join (p q : Path) : Path :=
  if q.rooted then q else ⟨p.rooted, p.steps ++ q.steps⟩

/-- The names left of some steps, last one first, after the given ones; none if the steps climb
above the start. -/
def cancel : List Name → List Step → Option (List Name)
  | names, [] => some names
  | names, .here :: steps => cancel names steps
  | [], .up :: _ => none
  | _ :: names, .up :: steps => cancel names steps
  | names, .name n :: steps => cancel (n :: names) steps

/-- The names of the normal form of a path. -/
def names? (p : Path) : Option (List Name) :=
  (cancel [] p.steps).map List.reverse

/-- The path without steps up and steps nowhere that leads to the same end where no link is on the
way. -/
def normal? (p : Path) : Option Path :=
  p.names?.map fun names => ⟨p.rooted, names.map .name⟩

/-- The path of the directory that holds the end of a path, by its last step. -/
def parent? (p : Path) : Option Path :=
  match p.steps.reverse with
  | [] => none
  | _ :: steps => some ⟨p.rooted, steps.reverse⟩

end Path

/-- The text of a place. -/
def Place.text (place : Place) : String :=
  "/" ++ "/".intercalate place

/-- Whether names are equal to others or stand before them: the first names that differ decide, and
the beginning of a list of names stands before the list. -/
def namesLe : List Name → List Name → Bool
  | [], _ => true
  | _ :: _, [] => false
  | a :: as, b :: bs => if a = b then namesLe as bs else decide (a < b)

/-- The text of a path below some directory. -/
def relativeText (names : List Name) : String :=
  "/".intercalate names

/-- The text of a path with another one behind it. -/
def joinText (base extension : String) : String :=
  if extension.startsWith "/" then extension
  else if base = "" || base.endsWith "/" then base ++ extension
  else base ++ "/" ++ extension

end ImageBuild
