import ImageBuild.Error
import ImageBuild.Text.Utf8

/-!
# Commands and their results

A command is a program with arguments and perhaps a directory to run in. Its result remembers the
command, how the process ended and what it wrote, so that a failure can be reported in full.
-/

namespace ImageBuild

/-- A command of the operating system. -/
structure Command where
  program : String
  args : List String
  /-- The directory to run in, if it is not the one of this process. -/
  dir : Option String
  deriving DecidableEq, Repr

namespace Command

/-- The command that a text writes: its first word is the program, the others are arguments. -/
def ofText (s : String) : Command :=
  match Text.words s with
  | [] => ⟨"", [], none⟩
  | program :: args => ⟨program, args, none⟩

/-- A command with more arguments. -/
def withArgs (c : Command) (args : List String) : Command :=
  { c with args := c.args ++ args }

/-- A command that runs in a given directory. -/
def inDir (c : Command) (dir : String) : Command :=
  { c with dir := some dir }

/-- The program and the arguments with blanks between them. -/
def line (c : Command) : String :=
  " ".intercalate (c.program :: c.args)

/-- A command in one line. -/
def summary (c : Command) : String :=
  "Command \x7b program: " ++ Text.quoted c.line ++ "," ++
    (match c.dir with
      | none => ""
      | some dir => " cwd: " ++ Text.quoted dir ++ ",") ++ " \x7d"

end Command

/-- How a process ends. -/
inductive Ending
  | exited (code : UInt8)
  | killed (signal : Nat)
  deriving DecidableEq, Repr

/-- The number that the operating system gives to an ending. -/
def Ending.waitStatus : Ending → Int
  | .exited code => code.toNat * 256
  | .killed signal => signal

/-- The result of a command. -/
structure CommandResult where
  command : Command
  /-- The number that the operating system gives to the ending, if there was a process. -/
  status : Option Int
  stdout : List UInt8
  stderr : List UInt8
  deriving DecidableEq, Repr

namespace CommandResult

/-- A part of a shown result: a name and a text, which is left out if it is empty. -/
def shownOutput (name text : String) : String :=
  if text = "" then "" else name ++ ": " ++ text ++ "\n,"

/-- A result with all that is known about it. -/
def summary (r : CommandResult) : String :=
  "CommandResult \x7b\ncommand: " ++ r.command.summary ++ ",\nstatus: " ++
    (match r.status with
      | none => "None"
      | some status => s!"Some(ExitStatus(unix_wait_status({status})))") ++ ",\n" ++
    shownOutput "stdout" (Text.Utf8.decodeLossy r.stdout) ++
    shownOutput "stderr" (Text.Utf8.decodeLossy r.stderr) ++ "\x7d"

/-- Whether there was a process that ended well. -/
def isSuccess (r : CommandResult) : Bool :=
  r.status == some 0

/-- Accepts a successful result and reports any other one. -/
def assertSuccess (r : CommandResult) : Except Frames Unit :=
  if r.isSuccess then .ok () else .error [r.summary ++ ".assert_success() -> unsuccessful"]

end CommandResult

end ImageBuild
