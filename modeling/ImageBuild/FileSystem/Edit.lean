import ImageBuild.FileSystem.Resolve

/-!
# Changing files

Every change takes a directory and a path seen from it, and either gives the changed file system or
fails and changes nothing. New entries never go through a link at their own name; writing to a file
does.
-/

namespace ImageBuild

/-- The permissions of directories made on the way to another entry. -/
def defaultDirMode : Mode := 0o755

/-- The time of nodes whose time does not matter. -/
def Time.epoch : Time := ⟨0, 0⟩

namespace FileSystem

/-- The place of the entry that the last step of a path names, whether or not there is one. The
steps before it are resolved. -/
def slot (fs : FileSystem) (dir : Place) (steps : List Step) : Except FileFault Place :=
  match steps.reverse with
  | .name n :: before =>
    match fs.follow dir before.reverse with
    | .error fault => .error fault
    | .ok parent =>
      if !fs.isDirAt parent then .error .notADirectory
      else if longestName < n.utf8ByteSize then .error .nameTooLong
      else .ok (parent ++ [n])
  | _ => .error .exists

/-- Puts a node where none stands. -/
def create (fs : FileSystem) (dir : Place) (steps : List Step) (node : Node) :
    Except FileFault FileSystem :=
  match fs.slot dir steps with
  | .error fault => .error fault
  | .ok place =>
    match fs.lookup place with
    | some _ => .error .exists
    | none => if node = .link "" then .error .notFound else .ok (fs.insert place node)

/-- Takes away the node of an entry that is no directory. -/
def unlink (fs : FileSystem) (dir : Place) (steps : List Step) : Except FileFault FileSystem :=
  match fs.slot dir steps with
  | .error fault => .error fault
  | .ok place =>
    match fs.lookup place with
    | none => .error .notFound
    | some (.dir _) => .error .isADirectory
    | some _ => .ok (fs.erase place)

/-- Takes away the node of an entry and everything below it. -/
def remove (fs : FileSystem) (dir : Place) (steps : List Step) : Except FileFault FileSystem :=
  match fs.slot dir steps with
  | .error fault => .error fault
  | .ok place =>
    match fs.lookup place with
    | none => .error .notFound
    | some _ => .ok (fs.erase place)

/-- Gives the node that a path leads to other permissions. -/
def setMode (fs : FileSystem) (dir : Place) (steps : List Step) (mode : Mode) :
    Except FileFault FileSystem :=
  match fs.follow dir steps with
  | .error fault => .error fault
  | .ok place =>
    match fs.lookup place with
    | none => .error .notFound
    | some node => .ok (fs.insert place (node.withMode mode))

/-- Writes a file, which is made if it does not exist. -/
def write (fs : FileSystem) (dir : Place) (steps : List Step) (content : List UInt8) (mode : Mode)
    (time : Time) : Except FileFault FileSystem :=
  match fs.walk none linkLimit dir steps with
  | .failed fault => .error fault
  | .missing place => .ok (fs.insert place (.file content mode time))
  | .found place =>
    match fs.lookup place with
    | some (.file ..) => .ok (fs.insert place (.file content mode time))
    | some (.dir _) => .error .isADirectory
    | _ => .error (.other "No such device or address (os error 6)")

/-- Makes the directories on the way along a path, from the resolved directory `dir` on. -/
def makeDirs (fs : FileSystem) (dir : Place) : List Step → Except FileFault FileSystem
  | [] => .ok fs
  | step :: steps =>
    match fs.walk none linkLimit dir [step] with
    | .failed fault => .error fault
    | .found place => if fs.isDirAt place then fs.makeDirs place steps else .error .notADirectory
    | .missing place =>
      match fs.create dir [step] (.dir defaultDirMode) with
      | .error fault => .error fault
      | .ok fs => fs.makeDirs place steps

end FileSystem

end ImageBuild
