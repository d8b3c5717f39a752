import ImageBuild.FileSystem.Fault
import ImageBuild.Path

/-!
# File systems

A file system gives every place at most one node: a file with its content, a directory, a symbolic
link, a pipe or a socket. The root is always a directory. `lookup` is the view through which all
operations are described, and `below` shows what a directory holds.
-/

namespace ImageBuild

/-- A moment in seconds since the epoch, with nanoseconds. -/
structure Time where
  seconds : Int
  nanos : Nat
  deriving DecidableEq, Repr

/-- Permission bits, of which the lowest twelve count. -/
abbrev Mode := Nat

/-- What stands at a place. -/
inductive Node
  | file (content : List UInt8) (mode : Mode) (time : Time)
  | dir (mode : Mode)
  | link (target : String)
  | pipe (mode : Mode)
  | socket (mode : Mode)
  deriving DecidableEq

namespace Node

/-- Whether a node is a directory. -/
def isDir : Node → Bool
  | .dir _ => true
  | _ => false

/-- Whether a node is a regular file. -/
def isFile : Node → Bool
  | .file .. => true
  | _ => false

/-- A node with other permissions; links have none. -/
def withMode (mode : Mode) : Node → Node
  | .file content _ time => .file content mode time
  | .dir _ => .dir mode
  | .link target => .link target
  | .pipe _ => .pipe mode
  | .socket _ => .socket mode

end Node

/-- What a directory holds: nodes by their path below it. -/
abbrev Tree := List (List Name × Node)

/-- A file system, by its nodes other than the root. No place has two nodes that count: the first
one is the one that stands there. -/
structure FileSystem where
  nodes : List (Place × Node)

namespace FileSystem

/-- The file system with nothing but the root. -/
def empty : FileSystem := ⟨[]⟩

/-- The permissions of the root. -/
def rootMode : Mode := 0o755

/-- The node at a place. -/
def lookup (fs : FileSystem) (place : Place) : Option Node :=
  if place = [] then some (.dir rootMode) else fs.nodes.lookup place

/-- Replaces the node of a place in a list of nodes, or puts it at the end. -/
def replace (place : Place) (node : Node) : List (Place × Node) → List (Place × Node)
  | [] => [(place, node)]
  | (p, n) :: rest => if p = place then (p, node) :: rest else (p, n) :: replace place node rest

/-- Puts a node at a place. -/
def insert (fs : FileSystem) (place : Place) (node : Node) : FileSystem :=
  ⟨replace place node fs.nodes⟩

/-- Takes away what stands at a place and below it. -/
def erase (fs : FileSystem) (place : Place) : FileSystem :=
  ⟨fs.nodes.filter fun (p, _) => !place.isPrefixOf p⟩

/-- The path of a place below a directory, if it is below it. -/
def relative? (dir place : Place) : Option (List Name) :=
  if dir.isPrefixOf place && dir.length < place.length then some (place.drop dir.length) else none

/-- Everything below a directory. -/
def below (fs : FileSystem) (dir : Place) : Tree :=
  fs.nodes.filterMap fun (place, node) => (relative? dir place).map fun path => (path, node)

end FileSystem

/-- The direct entries among some paths, which are those of a directory. -/
def Tree.children (tree : Tree) : List (Name × Node) :=
  tree.filterMap fun (path, node) =>
    match path with
    | [name] => some (name, node)
    | _ => none

/-- What a directory of a tree holds. -/
def Tree.sub (tree : Tree) (name : Name) : Tree :=
  tree.filterMap fun (path, node) =>
    match path with
    | first :: second :: rest => if first = name then some (second :: rest, node) else none
    | _ => none

end ImageBuild
