import ImageBuild.Archive.Basic
import ImageBuild.FileSystem.Edit

/-!
# Unpacking archives

Entries are put into a directory one after the other. A file or a link replaces what stands in its
way unless that is a directory, a directory may exist already but not as a link, and no entry leaves
the directory through a link. The first entry that can not be put there ends the work; earlier ones stay.
-/

namespace ImageBuild

/-- The permissions that unpacking gives: the lowest nine bits. -/
def unpackedMode (mode : Mode) : Mode := mode % 0o1000

/-- The time that unpacking gives: whole seconds, and one instead of zero. -/
def unpackedTime (seconds : Int) : Time :=
  ⟨if seconds = 0 then 1 else seconds, 0⟩

/-- The steps of a path below a directory. -/
def namesToSteps (names : List Name) : List Step := names.map .name

namespace FileSystem

/-- The directory that holds an entry of the archive unpacked into `target`, which has to lie inside
`target`. -/
def unpackParent (fs : FileSystem) (target : Place) (path : List Name) : Except FileFault Place :=
  match fs.follow [] (namesToSteps (target ++ path.dropLast)) with
  | .error fault => .error fault
  | .ok parent =>
    match fs.follow [] (namesToSteps target) with
    | .error fault => .error fault
    | .ok root =>
      if root.isPrefixOf parent then .ok parent
      else .error (.other "trying to unpack outside of destination path")

/-- Puts a node into the slot of a name, after taking away what stands there and is no directory. -/
def overwrite (fs : FileSystem) (parent : Place) (name : Name) (node : Node) :
    Except FileFault FileSystem :=
  match fs.create parent [.name name] node with
  | .ok fs' => .ok fs'
  | .error .exists =>
    match fs.unlink parent [.name name] with
    | .error fault => .error fault
    | .ok fs' => fs'.create parent [.name name] node
  | .error fault => .error fault

/-- Makes a directory in the slot of a name, or gives the one that stands there its permissions. A
link to a directory is none. -/
def ensureDir (fs : FileSystem) (parent : Place) (name : Name) (mode : Mode) :
    Except FileFault FileSystem :=
  match fs.create parent [.name name] (.dir mode) with
  | .ok fs' => .ok fs'
  | .error .exists =>
    if fs.isDirAt (parent ++ [name]) then .ok (fs.insert (parent ++ [name]) (.dir mode))
    else .error .exists
  | .error fault => .error fault

/-- Puts an entry of an archive into a directory, where the text of its path may not be too long. -/
def unpackEntry (fs : FileSystem) (target : Place) (entry : ArchiveEntry) :
    Except FileFault FileSystem :=
  match entry.path.getLast? with
  | none => .ok fs
  | some name =>
    if pathLimit ≤ (Place.text (target ++ entry.path)).utf8ByteSize then .error .nameTooLong
    else
      match fs.unpackParent target entry.path with
      | .error fault => .error fault
      | .ok parent =>
        match entry.stored with
        | .dir mode => fs.ensureDir parent name (unpackedMode mode)
        | .link link => fs.overwrite parent name (.link link)
        | .file content mode seconds =>
          fs.overwrite parent name (.file content (unpackedMode mode) (unpackedTime seconds))

/-- Puts the entries of an archive into a directory; the file system as far as that went, and the
fault that ended it. -/
def unpack (fs : FileSystem) (target : Place) : Archive → FileSystem × Option FileFault
  | [] => (fs, none)
  | entry :: rest =>
    match fs.unpackEntry target entry with
    | .error fault => (fs, some fault)
    | .ok fs' => fs'.unpack target rest

end FileSystem

end ImageBuild
