import ImageBuild.FileSystem.Basic
import ImageBuild.Git.Sha1
import ImageBuild.Text.Quoted
import ImageBuild.Text.Utf8

/-!
# Snapshots

A snapshot lists tracked files by their paths. It is named by a hash over its files: every directory
is an object that names its entries in order, a directory being ordered as if its name ended in a
slash.
-/

namespace ImageBuild.Git

/-- The name of an object. -/
abbrev ObjectId := List UInt8

/-- The hexadecimal digits of an object's name. -/
def hexText (id : ObjectId) : String :=
  String.ofList (id.flatMap fun b =>
    let digits := Text.hexDigits b.toNat
    List.replicate (2 - digits.length) '0' ++ digits)

/-- The name of an object of a kind with a content. -/
def objectId (kind : String) (content : List UInt8) : ObjectId :=
  sha1 (Text.Utf8.encode (kind ++ s!" {content.length}") ++ [0] ++ content)

/-- A tracked file. -/
inductive Tracked
  | file (content : List UInt8) (executable : Bool)
  | link (target : String)
  deriving DecidableEq, Repr

/-- The permissions that a tracked file is listed with. -/
def Tracked.mode : Tracked → String
  | .file _ true => "100755"
  | .file _ false => "100644"
  | .link _ => "120000"

/-- The name of the object that holds a tracked file. -/
def Tracked.id : Tracked → ObjectId
  | .file content _ => objectId "blob" content
  | .link target => objectId "blob" (Text.Utf8.encode target)

/-- The tracked form of a node, if it can be tracked. -/
def Tracked.ofNode? : Node → Option Tracked
  | .file content mode _ => some (.file content (mode &&& 0o100 != 0))
  | .link target => some (.link target)
  | _ => none

/-- Tracked files by their paths. -/
abbrev Snapshot := List (List Name × Tracked)

/-- Two snapshots with the same files. -/
def Snapshot.same (s t : Snapshot) : Bool :=
  s.length == t.length && s.all fun (path, tracked) => t.lookup path == some tracked

/-- Puts a file into a snapshot. -/
def Snapshot.put (s : Snapshot) (path : List Name) (tracked : Tracked) : Snapshot :=
  s.filter (fun (p, _) => p ≠ path) ++ [(path, tracked)]

/-- The first names of the paths of a snapshot, each with whether it is a directory, in order. -/
def Snapshot.heads (s : Snapshot) : List (Name × Bool) :=
  let heads := s.filterMap fun (path, _) =>
    match path with
    | [] => none
    | [name] => some (name, false)
    | name :: _ => some (name, true)
  let key (h : Name × Bool) : String := if h.2 then h.1 ++ "/" else h.1
  heads.eraseDups.mergeSort fun a b => decide (key a ≤ key b)

/-- The files of a directory of a snapshot. -/
def Snapshot.sub (s : Snapshot) (name : Name) : Snapshot :=
  s.filterMap fun (path, tracked) =>
    match path with
    | first :: second :: rest => if first = name then some (second :: rest, tracked) else none
    | _ => none

/-- The name of the object that holds a snapshot, whose paths are at most as long as given. -/
def Snapshot.treeId : Nat → Snapshot → ObjectId
  | 0, _ => []
  | depth + 1, s =>
    let entry (h : Name × Bool) : List UInt8 :=
      let (mode, id) :=
        if h.2 then ("40000", Snapshot.treeId depth (s.sub h.1))
        else
          match s.lookup [h.1] with
          | some tracked => (tracked.mode, tracked.id)
          | none => ("", [])
      Text.Utf8.encode (mode ++ " " ++ h.1) ++ [0] ++ id
    objectId "tree" (s.heads.flatMap entry)

/-- The name of the object that holds a snapshot. -/
def Snapshot.id (s : Snapshot) : ObjectId :=
  s.treeId ((s.map fun (path, _) => path.length).foldl max 0 + 1)

end ImageBuild.Git
