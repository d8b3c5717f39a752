import ImageBuild.Archive.Unpack
import ImageBuild.Sandbox

/-!
# Staging

Staging fills a working directory for one build: with everything in the context but what is called
`Dockerfile` at its top, and with the chosen dockerfile under that name. The context is archived as
a whole before anything is unpacked.
-/

namespace ImageBuild

/-- The name under which a build expects its dockerfile. -/
def dockerfileName : Name := "Dockerfile"

/-- Why staging fails. -/
inductive StagingFault
  /-- The context can not be archived; the working directory is as before. -/
  | notArchived (cause : ArchiveFault)
  | notUnpacked (cause : FileFault)
  | notCopied (cause : FileFault)
  deriving DecidableEq

/-- Whether an entry is called `Dockerfile` at the top, or lies below such an entry. -/
def ArchiveEntry.isExcluded (entry : ArchiveEntry) : Bool :=
  entry.path.head? == some dockerfileName

namespace FileSystem

/-- Copies a file with its permissions and its time. What stands at the destination is emptied
first. -/
def copyFile (fs : FileSystem) (source dir : Place) (name : Name) : Except FileFault FileSystem :=
  let destination := namesToSteps (dir ++ [name])
  if pathLimit ≤ (Place.text (dir ++ [name])).utf8ByteSize then .error .nameTooLong
  else
    match fs.lookup source with
    | some (.file _ mode time) =>
      match fs.write [] destination [] mode time with
      | .error fault => .error fault
      | .ok emptied =>
        match emptied.lookup source with
        | some (.file content _ _) => emptied.write [] destination content mode time
        | _ => .error .notFound
    | some (.dir _) => .error .isADirectory
    | _ => .error .notFound

/-- Fills a working directory from a context and one of its files. -/
def stage (fs : FileSystem) (contained : Contained) (workdir : Place) :
    List LogRecord × FileSystem × Except StagingFault Unit :=
  match fs.archive [] contained.root.text with
  | (records, .error fault) => (records, fs, .error (.notArchived fault))
  | (records, .ok archive) =>
    match fs.unpack workdir (archive.filter fun entry => !entry.isExcluded) with
    | (fs, some fault) => (records, fs, .error (.notUnpacked fault))
    | (fs, none) =>
      match fs.copyFile contained.file workdir dockerfileName with
      | .error fault => (records, fs, .error (.notCopied fault))
      | .ok fs => (records, fs, .ok ())

end FileSystem

end ImageBuild
