import ImageBuild.CommandLine.Run

/-!
# The program

The outer layer of the command line: it reads the arguments and the variables, takes a picture of
the files that a run can reach, and prints what the run shows. No daemon can be reached from here,
so only dry runs succeed.
-/

namespace ImageBuild.Main

/-- The permissions of directories in a picture of files. -/
def dirMode : Mode := 0o755

/-- The permissions of files in a picture of files. -/
def fileMode : Mode := 0o644

/-- The node at a path, without following it if it is a link. A link leads to its final target. -/
def readNode (path : String) : IO (Option Node) := do
  let file := (← IO.currentDir) / path
  try
    let data ← file.symlinkMetadata
    match data.type with
    | .dir => return some (.dir dirMode)
    | .file =>
      let content ← IO.FS.readBinFile file
      return some (.file content.toList fileMode ⟨data.modified.sec, data.modified.nsec.toNat⟩)
    | .symlink =>
      try
        return some (.link (← IO.FS.realPath file).toString)
      catch _ => return some (.link "")
    | .other => return some (.pipe fileMode)
  catch _ => return none

/-- The place that an absolute path names if no links are on it. -/
def placeOf (path : String) : Place :=
  (Path.ofText path).steps.filterMap fun step =>
    match step with
    | .name n => some n
    | _ => none

/-- Adds everything on the way to a place. -/
partial def addWay (files : FileSystem) (place : Place) : IO FileSystem := do
  let mut files := files
  for k in List.range place.length do
    let here := place.take (k + 1)
    if (files.lookup here).isNone then
      match ← readNode (Place.text here) with
      | none => return files
      | some node =>
        files := files.insert here node
        if let .link target := node then
          if target ≠ "" then files ← addWay files (placeOf target)
  return files

/-- Adds everything below a directory. -/
partial def addBelow (files : FileSystem) (place : Place) : IO FileSystem := do
  let mut files := files
  for entry in ← ((← IO.currentDir) / Place.text place).readDir do
    let here := place ++ [entry.fileName]
    files ← addWay files here
    if let some (.dir _) := files.lookup here then files ← addBelow files here
  return files

/-- Adds what an absolute path leads to: the way there and, for a directory, all below it. -/
def addTarget (files : FileSystem) (path : String) (deep : Bool) : IO FileSystem := do
  let files ← addWay files (placeOf path)
  match files.resolve [] path with
  | .error _ => return files
  | .ok place =>
    let files ← addWay files place
    if deep && files.isDirAt place then addBelow files place else return files

/-- The variables that a run looks at. -/
def readVariables : IO CommandLine.Variables := do
  let mut env := []
  for name in ["TMPDIR", "BUILD_RUNNER_LOG", "RUST_LOG"] do
    if let some value ← IO.getEnv name then env := (name, value) :: env
  return env

/-- What a run is connected to. -/
def services (seed : Nat) : CommandLine.Services Unit where
  connection := .error ["no container daemon can be reached"]
  provider := (FixedAnswers.mk none none none).provider
  draw := fun n => uuidOfBits ((seed + n) % 1 <<< 122)

/-- Runs a command line that asks for a run and prints the records that a filter shows. -/
def executeWith (filter : LogFilter) (arguments : Arguments) (env : CommandLine.Variables) :
    IO UInt32 := do
  let cwd := placeOf (← IO.FS.realPath (← IO.currentDir)).toString
  let absolute := joinText (Place.text cwd)
  let mut files ← addWay FileSystem.empty cwd
  files ← addTarget files (absolute arguments.config) false
  files ← addTarget files (absolute (CommandLine.contextDir arguments)) true
  files ← addTarget files (CommandLine.tempDir env cwd) false
  let seed ← IO.rand 0 (1 <<< 122 - 1)
  let (w, result) := CommandLine.run (services seed) arguments
    (CommandLine.world files cwd env ())
  let span := CommandLine.span? arguments files cwd
  for record in CommandLine.shownRecords filter span w result do
    IO.println record.text
  return (CommandLine.exitStatus (some result)).toUInt32

/-- Runs a command line that asks for a run. -/
def execute (arguments : Arguments) : IO UInt32 := do
  let env ← readVariables
  match CommandLine.logFilter arguments env with
  | some filter => executeWith filter arguments env
  | none => return (CommandLine.exitStatus none).toUInt32

end ImageBuild.Main

/-- Runs the program with its arguments. -/
def main (arguments : List String) : IO UInt32 := do
  match ImageBuild.Arguments.parse arguments with
  | .error fault =>
    IO.eprintln ("error: " ++ fault.message ++ "\n\n" ++ ImageBuild.usageText)
    return ImageBuild.CommandLine.usageExitCode.toUInt32
  | .ok .help =>
    IO.println ImageBuild.helpText
    return 0
  | .ok (.run wish) => ImageBuild.Main.execute wish
