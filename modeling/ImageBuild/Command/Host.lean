import ImageBuild.FileSystem.Acquire
import ImageBuild.Command.Basic

/-!
# Running commands

A host has files, a working directory and installed programs. Running a command resolves its
directory, finds its program and waits for the process to end.
-/

namespace ImageBuild

/-- What a process starts with. -/
structure Invocation where
  files : FileSystem
  /-- Its working directory. -/
  dir : Place
  /-- The name under which the program was called. -/
  name : String
  args : List String
  stdin : List UInt8
  /-- The variables of its environment. -/
  environment : List (String × String)

/-- Where a process writes to. -/
inductive Channel
  | output
  | error
  deriving DecidableEq, Repr

/-- What a process leaves behind. -/
structure Outcome where
  ending : Ending
  /-- What it has written, in order. -/
  writes : List (Channel × List UInt8)
  /-- The files as they are afterwards, if it has changed any. -/
  files : Option FileSystem
  /-- How many bytes of its input it has taken. -/
  taken : Nat

/-- What has been written to a channel. -/
def Outcome.written (o : Outcome) (channel : Channel) : List UInt8 :=
  (o.writes.filter fun w => w.1 = channel).flatMap (·.2)

/-- A program, by what its processes leave behind. -/
abbrev Program := Invocation → Outcome

/-- Where commands run. -/
structure Host where
  files : FileSystem
  cwd : Place
  environment : List (String × String)
  /-- The installed programs by their names. -/
  programs : String → Option Program

namespace Host

/-- The directories with the installed programs. -/
def programDirs : List Place := [["bin"], ["usr", "bin"]]

/-- Whether some bit of a mode allows running a file. -/
def isExecutable (mode : Mode) : Bool :=
  mode &&& 0o111 != 0

/-- The installed program that a path leads to, seen from a directory. -/
def installed? (host : Host) (dir : Place) (path : String) : Option Program :=
  match ((Path.ofPlace dir).join (Path.ofText path)).names? with
  | some place =>
    if programDirs.contains place.dropLast && !path.endsWith "/" then
      place.getLast?.bind host.programs
    else none
  | none => none

/-- The number of bytes of a file that are looked at for an interpreter. -/
def headSize : Nat := 256

/-- Whether a character stands between the parts of the first line of a script. -/
def isGap (c : Char) : Bool := c == ' ' || c == '\t'

/-- The interpreter that the first line of a file names behind `#!` and the rest of that line, which
is one argument for it. The line has to end among the first bytes of the file, or a blank behind the
name of the interpreter. -/
def interpreterLine? (content : List UInt8) : Option (String × List String) :=
  match (Text.Utf8.decodeLossy (content.take headSize)).toList with
  | '#' :: '!' :: text =>
    let line := text.takeWhile (· ≠ '\n')
    let isWhole := line.length < text.length || content.length < headSize
    let start := line.dropWhile isGap
    let name := start.takeWhile fun c => !isGap c && c ≠ '\x00'
    let argument := ((start.drop name.length).dropWhile isGap).takeWhile (· ≠ '\x00')
    let argument := (argument.reverse.dropWhile isGap).reverse
    if name = [] || (!isWhole && name.length = start.length) then none
    else some (String.ofList name, if argument = [] then [] else [String.ofList argument])
  | _ => none

/-- How many interpreters of interpreters there may be. -/
def interpreterLimit : Nat := 6

/-- The program that a path leads to, seen from a directory: an installed one or a file whose
interpreter is given the path. The first argument bounds the number of interpreters. -/
def programAt (host : Host) (dir : Place) : Nat → String → Except FileFault Program
  | 0, _ => .error .tooManyLinks
  | depth + 1, path =>
    match host.installed? dir path with
    | some program => .ok program
    | none =>
      match host.files.resolve dir path with
      | .error fault => .error fault
      | .ok place =>
        match host.files.lookup place with
        | some (.file content mode _) =>
          if !isExecutable mode then .error .permissionDenied
          else
            match interpreterLine? content with
            | none => .error .noProgram
            | some (interpreter, options) =>
              match host.programAt dir depth interpreter with
              | .error fault => .error fault
              | .ok program =>
                .ok fun i => program { i with name := interpreter, args := options ++ path :: i.args }
        | _ => .error .permissionDenied

/-- The program of a name or, if the name holds a slash, of a path seen from a directory. -/
def program (host : Host) (dir : Place) (name : String) : Except FileFault Program :=
  if name.toList.contains '/' then host.programAt dir interpreterLimit name
  else
    match host.programs name with
    | some program => .ok program
    | none => .error .notFound

/-- The fault of a process that can not be started because of its texts. -/
def textFault? (c : Command) : Option FileFault :=
  if (c.program :: c.args).any fun s => s.toList.contains '\x00' then
    some (.other "nul byte found in provided data")
  else none

/-- Starts a command in a resolved directory and waits for its end. -/
def start (host : Host) (dir : Place) (c : Command) : Except FileFault Outcome :=
  match textFault? c with
  | some fault => .error fault
  | none =>
    match host.program dir c.program with
    | .error fault => .error fault
    | .ok program => .ok (program ⟨host.files, dir, c.program, c.args, [], host.environment⟩)

/-- Runs a command without input; how it ends is not looked at. -/
def run (host : Host) (c : Command) : Except Frames CommandResult :=
  let dir : Except Frames Place :=
    match c.dir with
    | none => .ok host.cwd
    | some dir => host.files.acquireDir host.cwd dir
  match dir with
  | .error frames =>
    .error (frames ++ [c.summary ++ ".run_to_completion() -> failed to acquire working directory"])
  | .ok dir =>
    match host.start dir c with
    | .error fault =>
      .error [fault.message, c.summary ++ ".run_to_completion() -> failed to run child process"]
    | .ok outcome =>
      .ok ⟨c, some outcome.ending.waitStatus, outcome.written .output, outcome.written .error⟩

/-- Runs the command of a text with more arguments in a directory. If it succeeds, the text that it
wrote without the line breaks at its end. -/
def capture (host : Host) (commandText : String) (args : List String) (dir : String) :
    Except Frames String :=
  match host.run (((Command.ofText commandText).withArgs args).inDir dir) with
  | .error frames => .error frames
  | .ok result =>
    match result.assertSuccess with
    | .error frames => .error frames
    | .ok () =>
      match Text.Utf8.decode? result.stdout with
      | .error fault => .error [fault.message]
      | .ok text => .ok (Text.trimEndMatches (fun c => c == '\r' || c == '\n') text)

end Host

end ImageBuild
