import ImageBuild.FileSystem.Resolve
import ImageBuild.Log
import ImageBuild.Text.Quoted

/-!
# Archives of directories

An archive lists what a directory holds. The entries of one directory stand together, in the order
of their names and before everything that its subdirectories hold; the subdirectories follow with
the last one first (`Tree.traversal`). Links are stored as links and never followed, sockets are
left out, and a pipe makes archiving fail.
-/

namespace ImageBuild

/-- What an archive stores of a node. -/
inductive Stored
  | file (content : List UInt8) (mode : Mode) (seconds : Int)
  | dir (mode : Mode)
  | link (target : String)
  deriving DecidableEq

/-- An entry of an archive: its path below the archived directory and what is stored. -/
structure ArchiveEntry where
  path : List Name
  stored : Stored
  deriving DecidableEq

/-- The entries of an archive, in order. -/
abbrev Archive := List ArchiveEntry

/-- Why a directory can not be archived. -/
inductive ArchiveFault
  /-- Its entries can not be listed. -/
  | unlisted (cause : FileFault)
  /-- The text of the path of an entry is too long. -/
  | unreachable (path : String)
  /-- It holds a pipe. -/
  | pipe
  deriving DecidableEq

/-- The wording of a fault. -/
def ArchiveFault.message : ArchiveFault → String
  | .unlisted cause => cause.message
  | .unreachable path => FileFault.nameTooLong.message ++ " when getting metadata for " ++ path
  | .pipe => "paths in archives must be relative when setting path for "

/-- The report of a directory that can not be archived, innermost message first. -/
def ArchiveFault.frames (dir : String) (fault : ArchiveFault) : List String :=
  [fault.message, "Tarball::from_dir failed to archive " ++ Text.quoted dir]

/-! ## The order of the entries -/

/-- Puts an entry before the first one whose name is not less. -/
def insertByName (entry : Name × Node) : List (Name × Node) → List (Name × Node)
  | [] => [entry]
  | first :: rest =>
    if entry.1 ≤ first.1 then entry :: first :: rest else first :: insertByName entry rest

/-- The direct entries of a tree in the order of their names. -/
def Tree.entries (tree : Tree) : List (Name × Node) :=
  tree.children.foldr insertByName []

/-- How many steps the longest path of a tree has. -/
def Tree.depth (tree : Tree) : Nat :=
  (tree.map fun (path, _) => path.length).foldl max 0

/-- The nodes of a tree that stands at `dir`, in archive order, down to a given depth. -/
def Tree.traverse : Nat → List Name → Tree → Tree
  | 0, _, _ => []
  | depth + 1, dir, tree =>
    (tree.entries.map fun (name, node) => (dir ++ [name], node)) ++
      (tree.entries.filter fun (_, node) => node.isDir).reverse.flatMap fun (name, _) =>
        Tree.traverse depth (dir ++ [name]) (tree.sub name)

/-- All nodes of a tree, in archive order. -/
def Tree.traversal (tree : Tree) : Tree :=
  tree.traverse tree.depth []

/-! ## What is stored -/

/-- The greatest length of a link target that is stored in its short form. -/
def shortTarget : Nat := 100

/-- The parts of a link target as a short form writes them: empty parts and steps nowhere are left
out, but for a step nowhere in front. -/
def targetParts (target : String) : List String :=
  match (Text.splitText '/' target).filter (· ≠ "") with
  | [] => []
  | first :: rest =>
    if target.startsWith "/" then (first :: rest).filter (· ≠ ".")
    else first :: rest.filter (· ≠ ".")

/-- A link target without empty parts and steps nowhere; a slash at its end is kept. -/
def shortForm (target : String) : String :=
  (if target.startsWith "/" then "/" else "") ++ "/".intercalate (targetParts target) ++
    (if target.endsWith "/" then "/" else "")

/-- The target that is stored for a link. -/
def storedTarget (target : String) : String :=
  if (shortForm target).utf8ByteSize ≤ shortTarget then shortForm target else target

/-- What is stored of a node; nothing of a socket. -/
def Node.stored? : Node → Except ArchiveFault (Option Stored)
  | .file content mode time => .ok (some (.file content mode time.seconds))
  | .dir mode => .ok (some (.dir mode))
  | .link target => .ok (some (.link (storedTarget target)))
  | .socket _ => .ok none
  | .pipe _ => .error .pipe

/-- What is stored of a node that the text of a path leads to. -/
def Node.storedAt? (path : String) (node : Node) : Except ArchiveFault (Option Stored) :=
  match node with
  | .socket _ => .ok none
  | _ => if pathLimit ≤ path.utf8ByteSize then .error (.unreachable path) else node.stored?

/-- The record of a socket that is left out, by the text of its path. -/
def socketRecord (path : String) : LogRecord :=
  .warn .builder "skipping socket, sockets can not be archived" [("path", Text.quoted path)]

/-- Archives nodes in the order given, up to the first fault, `dir` being the text of the path of
their directory. -/
def archiveNodes (dir : String) : Tree → List LogRecord × Except ArchiveFault Archive
  | [] => ([], .ok [])
  | (path, node) :: rest =>
    let full := joinText dir (relativeText path)
    match node.storedAt? full with
    | .error fault => ([], .error fault)
    | .ok none =>
      let (records, result) := archiveNodes dir rest
      (socketRecord full :: records, result)
    | .ok (some stored) =>
      let (records, result) := archiveNodes dir rest
      (records, (⟨path, stored⟩ :: ·) <$> result)

/-- Archives what the directory of a path holds, seen from a working directory. -/
def FileSystem.archive (fs : FileSystem) (cwd : Place) (dir : String) :
    List LogRecord × Except ArchiveFault Archive :=
  match fs.resolve cwd (joinText dir "") with
  | .error cause => ([], .error (.unlisted cause))
  | .ok place =>
    if fs.isDirAt place then archiveNodes dir (fs.below place).traversal
    else ([], .error (.unlisted .notADirectory))

/-- The paths of the entries that are no directories, in ascending order by their names. -/
def Archive.files (archive : Archive) : List (List Name) :=
  let paths := archive.filterMap fun entry =>
    match entry.stored with
    | .dir _ => none
    | _ => some entry.path
  paths.mergeSort namesLe

/-- The texts of the paths of the entries that are no directories, in ascending order. -/
def Archive.fileTexts (archive : Archive) : List String :=
  (archive.files.map relativeText).mergeSort fun a b => decide (a ≤ b)

/-- An archive in one line. -/
def Archive.summary (archive : Archive) : String :=
  Text.shownStructure "Tarball" [("paths", Text.quotedSet archive.fileTexts)]

/-- The size of the blocks of a written archive. -/
def Archive.blockSize : Nat := 512

/-- The size of a written archive without entries, which is two empty blocks. -/
def Archive.emptySize : Nat := 2 * Archive.blockSize

end ImageBuild
