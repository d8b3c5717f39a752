import ImageBuild.Builder.Run
import ImageBuild.CommandLine.Arguments
import ImageBuild.CommandLine.LogFilter
import ImageBuild.Config.Load

/-!
# Running a command line

A command line that asks for a run has its configuration loaded, is connected to a backend unless
the run is a dry one, and is run. `CommandLine.exitStatus` tells how the process ends: with zero
exactly if all of that succeeds.
-/

namespace ImageBuild.CommandLine

/-- Variables of the environment. -/
abbrev Variables := List (String × String)

/-- What a run is connected to. -/
structure Services (σ : Type) where
  /-- The backend, or why there is none to connect to. -/
  connection : Except Frames (Backend σ)
  provider : Provider σ
  /-- A supply of fresh identifiers. -/
  draw : Nat → String

variable {σ : Type}

/-- The directory of the configuration. -/
def configDir (config : String) : String :=
  match (Path.ofText config).parent? with
  | none => "."
  | some dir => if dir.text = "" then "." else dir.text

/-- The context root of a command line. -/
def contextDir (arguments : Arguments) : String :=
  arguments.context.getD (configDir arguments.config)

/-- The directory in which working directories are made. -/
def tempDir (env : Variables) (cwd : Place) : String :=
  match env.lookup "TMPDIR" with
  | none => "/tmp"
  | some dir => joinText (Place.text cwd) dir

/-- The filter of the records of a run: the one that the command line or the variable of the program
sets, else the one of the general variable if all of it can be read. A severed directive leaves no
filter. -/
def logFilter (arguments : Arguments) (env : Variables) : Option LogFilter :=
  match arguments.logLevel.or (env.lookup "BUILD_RUNNER_LOG") with
  | some text => LogFilter.ofText text
  | none =>
    match (env.lookup "RUST_LOG").map LogFilter.ofText? with
    | some (.ok filter) => some filter
    | some (.error .severed) => none
    | some (.error .unreadable) | none => some (.upTo .info)

/-- The world in which a run begins; its output is logged. -/
def world (files : FileSystem) (cwd : Place) (env : Variables) (service : σ) : World σ where
  files := files
  cwd := cwd
  temp := tempDir env cwd
  serial := 1
  service := service
  stdout := .logger (.new .stdout none)
  stderr := .logger (.new .stderr none)
  records := []
  events := []

/-- The record of a dry run. -/
def dryRunRecord : LogRecord := .info .program "dry run, no backend attached" []

/-- The settings of a run with or without a backend. -/
def settings (services : Services σ) (arguments : Arguments) (backend : Option (Backend σ)) :
    Settings σ where
  context := contextDir arguments
  backend := backend
  provider := services.provider
  skipPush := arguments.skipPush

/-- Runs a loaded configuration. -/
def runConfig (services : Services σ) (arguments : Arguments) (config : Config) (w : World σ) :
    World σ × Except BuildError Unit :=
  if arguments.dryRun then
    compileAndRun (settings services arguments none) services.draw 1 config (w.log [dryRunRecord])
  else
    match services.connection with
    | .error frames => (w, .error (.backend "connect" frames))
    | .ok backend =>
      compileAndRun (settings services arguments (some backend)) services.draw 1 config w

/-- Loads the configuration of a command line and runs it. -/
def run (services : Services σ) (arguments : Arguments) (w : World σ) :
    World σ × Except BuildError Unit :=
  match Config.load w.files w.cwd arguments.config with
  | .error e => (w, .error e)
  | .ok config => runConfig services arguments config w

/-- How a process ends. -/
def exitCode : Except BuildError Unit → UInt8
  | .ok () => 0
  | .error e => e.exitCode

/-- The exit code of a process whose arguments are refused. -/
def usageExitCode : UInt8 := 2

/-- The record of the error that ends a run. -/
def errorRecords : Except BuildError Unit → List LogRecord
  | .ok () => []
  | .error e => [.error .program e.message []]

/-- The exit code of a process that has no filter for its records: it ends before it does anything. -/
def crashExitCode : UInt8 := 101

/-- The result of a command line that asks for a run. Without a filter for the records of the run
there is none. -/
def outcome (services : Services σ) (arguments : Arguments) (env : Variables) (w : World σ) :
    Option (Except BuildError Unit) :=
  (logFilter arguments env).map fun _ => (run services arguments w).2

/-- The exit code of a process whose arguments ask for a run. -/
def exitStatus : Option (Except BuildError Unit) → UInt8
  | none => crashExitCode
  | some result => exitCode result

/-- The span of a run: its context root and how many sections its plan has. -/
def span (arguments : Arguments) (config : Config) : Span where
  name := "build_command_sequence"
  topic := .builder
  fields := [
    ("context_dir", .text (Text.quoted (contextDir arguments))),
    ("sub_sequences", .count config.sections.length)]

/-- The span of a command line, if its configuration can be loaded. -/
def span? (arguments : Arguments) (files : FileSystem) (cwd : Place) : Option Span :=
  match Config.load files cwd arguments.config with
  | .ok config => some (span arguments config)
  | .error _ => none

/-- Whether a record is made within the span of a run: those about the program as a whole are not. -/
def isWithinSpan (r : LogRecord) : Bool := r.topic != .program

/-- The records of a run that are shown. -/
def shownRecords (filter : LogFilter) (span : Option Span) (w : World σ)
    (result : Except BuildError Unit) : List LogRecord :=
  (w.records ++ errorRecords result).filter fun r =>
    filter.shows (if isWithinSpan r then span else none) r

end ImageBuild.CommandLine
