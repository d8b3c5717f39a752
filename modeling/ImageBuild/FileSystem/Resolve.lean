import ImageBuild.FileSystem.Basic

/-!
# Resolving paths

Resolving takes the steps of a path one by one, through directories only, and goes on at the target
of every symbolic link it meets, forty of them at most. `walk` tells where that ends. `resolve` and
`canonical` give the place of an existing node: the first takes no text that is too long, the second
takes every text, but looks at no place with a text that is too long.
-/

namespace ImageBuild

/-- The most bytes that a name may have. -/
def longestName : Nat := 255

/-- The bytes from which on a path is too long. -/
def pathLimit : Nat := 4096

/-- How many links may be followed. -/
def linkLimit : Nat := 40

/-- Where steps lead before they meet a link. -/
inductive Advance
  | arrived (place : Place)
  /-- Only the last entry is missing. -/
  | missing (place : Place)
  /-- A link in the directory `dir`, with the steps that are left. -/
  | link (dir : Place) (target : String) (rest : List Step)
  | failed (fault : FileFault)
  deriving DecidableEq

/-- Where a path leads. -/
inductive Destination
  | found (place : Place)
  /-- The node does not exist, but the directory that would hold it does. -/
  | missing (place : Place)
  | failed (fault : FileFault)
  deriving DecidableEq

namespace FileSystem

/-- Whether a step from a place leads to one whose text has a forbidden number of bytes: the limit,
if there is one, or more. -/
def overruns (limit : Option Nat) (place : Place) : Step → Bool
  | .name n => limit.any (· ≤ (place ++ [n]).text.utf8ByteSize)
  | _ => false

/-- Takes steps from a place until they end or meet a link. -/
def advance (fs : FileSystem) (limit : Option Nat) : Place → List Step → Advance
  | place, [] => .arrived place
  | place, step :: rest =>
    if overruns limit place step then .failed .nameTooLong
    else
      match fs.lookup place with
      | some (.dir _) =>
        match step with
        | .here => fs.advance limit place rest
        | .up => fs.advance limit place.dropLast rest
        | .name n =>
          if longestName < n.utf8ByteSize then .failed .nameTooLong
          else
            match fs.lookup (place ++ [n]) with
            | none => if rest = [] then .missing (place ++ [n]) else .failed .notFound
            | some (.link target) => .link place target rest
            | some _ => fs.advance limit (place ++ [n]) rest
      | _ => .failed .notADirectory

/-- Takes steps from a place and follows the given number of links. -/
def walk (fs : FileSystem) (limit : Option Nat) : Nat → Place → List Step → Destination
  | links, place, steps =>
    match fs.advance limit place steps with
    | .arrived p => .found p
    | .missing p => .missing p
    | .failed fault => .failed fault
    | .link dir target rest =>
      match links with
      | 0 => .failed .tooManyLinks
      | links + 1 =>
        let path := Path.ofText target
        if target = "" then .failed .notFound
        else fs.walk limit links (if path.rooted then [] else dir) (path.steps ++ rest)

end FileSystem

/-- The place of a destination that exists. -/
def Destination.existing : Destination → Except FileFault Place
  | .found p => .ok p
  | .missing _ => .error .notFound
  | .failed fault => .error fault

namespace FileSystem

/-- The place of the existing node that steps lead to. -/
def follow (fs : FileSystem) (place : Place) (steps : List Step) : Except FileFault Place :=
  (fs.walk none linkLimit place steps).existing

/-- What is wrong with the text of any path, before a file is looked at. -/
def textFault? (s : String) : Option FileFault :=
  if s.toList.contains '\x00' then some .zeroInPath
  else if s = "" then some .notFound
  else none

/-- Where the path that a text of any length writes leads, seen from a directory, with a limit on the
texts of the places on the way. -/
def destination (fs : FileSystem) (limit : Option Nat) (cwd : Place) (s : String) : Destination :=
  match textFault? s with
  | some fault => .failed fault
  | none =>
    let path := Path.ofText s
    fs.walk limit linkLimit (if path.rooted then [] else cwd) path.steps

/-- Where the path that a text writes leads, seen from a directory. -/
def locate (fs : FileSystem) (cwd : Place) (s : String) : Destination :=
  if !s.toList.contains '\x00' && pathLimit ≤ s.utf8ByteSize then .failed .nameTooLong
  else fs.destination none cwd s

/-- The place of the existing node that the path of a text leads to, seen from a directory. -/
def resolve (fs : FileSystem) (cwd : Place) (s : String) : Except FileFault Place :=
  (fs.locate cwd s).existing

/-- The place of the existing node that the path of a text of any length leads to, seen from a
directory. -/
def canonical (fs : FileSystem) (cwd : Place) (s : String) : Except FileFault Place :=
  (fs.destination (some pathLimit) cwd s).existing

/-- Whether a directory stands at a place. -/
def isDirAt (fs : FileSystem) (place : Place) : Bool :=
  match fs.lookup place with
  | some node => node.isDir
  | none => false

/-- Whether a regular file stands at a place. -/
def isFileAt (fs : FileSystem) (place : Place) : Bool :=
  match fs.lookup place with
  | some node => node.isFile
  | none => false

/-- The bytes of the file that the path of a text leads to. -/
def readBytes (fs : FileSystem) (cwd : Place) (s : String) : Except FileFault (List UInt8) :=
  match fs.resolve cwd s with
  | .error fault => .error fault
  | .ok place =>
    match fs.lookup place with
    | some (.file content _ _) => .ok content
    | some (.dir _) => .error .isADirectory
    | _ => .error .notFound

end FileSystem

end ImageBuild
