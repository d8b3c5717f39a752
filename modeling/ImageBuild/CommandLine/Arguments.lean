/-!
# Arguments of the command line

The command line names a configuration and sets options. An argument that begins with a dash is an
option, a lone dash is not, and behind two dashes there are no options. `Arguments.parse` reads the
arguments from left to right: the first fault counts, and a wish for help counts as soon as it is
met.
-/

namespace ImageBuild

/-- What the arguments of a command line say. -/
structure Arguments where
  /-- The path of the configuration. -/
  config : String
  /-- The context root, if it is not the directory of the configuration. -/
  context : Option String
  skipPush : Bool
  dryRun : Bool
  /-- Which records are shown. -/
  logLevel : Option String
  deriving DecidableEq, Repr

/-- What a command line asks for. -/
inductive Wish
  | help
  | run (arguments : Arguments)
  deriving DecidableEq, Repr

/-- Why a command line is refused. -/
inductive UsageFault
  /-- Nothing is known about an argument. -/
  | unexpected (argument : String)
  /-- An option or an argument that needs a value has none. -/
  | missingValue (name : String)
  /-- A flag has a value. -/
  | needlessValue (name : String)
  /-- An option is given twice. -/
  | repeated (name : String)
  /-- There is no configuration. -/
  | missingConfig
  deriving DecidableEq, Repr

/-- The wording of a refusal. -/
def UsageFault.message : UsageFault → String
  | .unexpected argument => "unexpected argument '" ++ argument ++ "' found"
  | .missingValue name => "a value is required for '" ++ name ++ "' but none was supplied"
  | .needlessValue name => "unexpected value for '" ++ name ++ "' found"
  | .repeated name => "the argument '" ++ name ++ "' cannot be used multiple times"
  | .missingConfig => "the following required arguments were not provided: <CONFIG>"

/-- How the program is called. -/
def usageText : String := "Usage: build-runner [OPTIONS] <CONFIG>"

/-- What the program says about itself. -/
def helpText : String :=
  "\n".intercalate [
    "Compiles a container build config into build, tag, and push commands and runs them",
    "",
    usageText,
    "",
    "Arguments:",
    "  <CONFIG>  Path to the JSON config",
    "",
    "Options:",
    "      --context-dir <CONTEXT_DIR>  Root that dockerfile paths are resolved against",
    "      --skip-push                  Build and tag but never push",
    "      --dry-run                    Do not connect to a backend, every command is skipped",
    "      --log-level <LOG_LEVEL>      Which records are shown [env: BUILD_RUNNER_LOG=]",
    "  -h, --help                       Print help"]

/-- What is read of a command line. -/
structure ArgumentsDraft where
  config : Option String
  context : Option String
  skipPush : Bool
  dryRun : Bool
  logLevel : Option String

namespace ArgumentsDraft

/-- The draft in front of all arguments. -/
def empty : ArgumentsDraft := ⟨none, none, false, false, none⟩

/-- The finished arguments. -/
def finish (d : ArgumentsDraft) : Except UsageFault Wish :=
  match d.config with
  | none => .error .missingConfig
  | some config => .ok (.run ⟨config, d.context, d.skipPush, d.dryRun, d.logLevel⟩)

/-- Takes an argument that is no option. -/
def keepConfig (d : ArgumentsDraft) (argument : String) : Except UsageFault ArgumentsDraft :=
  if d.config.isSome then .error (.unexpected argument)
  else if argument = "" then .error (.missingValue "<CONFIG>")
  else .ok { d with config := some argument }

/-- Takes the value of an option. -/
def keepValue (d : ArgumentsDraft) (name value : String) : Except UsageFault ArgumentsDraft :=
  if name = "--context-dir" then
    if d.context.isSome then .error (.repeated name)
    else if value = "" then .error (.missingValue name)
    else .ok { d with context := some value }
  else
    if d.logLevel.isSome then .error (.repeated name)
    else .ok { d with logLevel := some value }

/-- Takes a flag. -/
def keepFlag (d : ArgumentsDraft) (name : String) : Except UsageFault ArgumentsDraft :=
  if name = "--skip-push" then
    if d.skipPush then .error (.repeated name) else .ok { d with skipPush := true }
  else
    if d.dryRun then .error (.repeated name) else .ok { d with dryRun := true }

end ArgumentsDraft

/-- An argument by its form. -/
inductive ArgumentForm
  /-- It is no option. -/
  | plain
  /-- It ends the options. -/
  | separator
  /-- A long option with the value behind its equals sign, if it has one. -/
  | long (name : String) (value : Option String)
  /-- Options of one letter each. -/
  | short (letters : List Char)
  deriving DecidableEq, Repr

/-- The form of an argument. -/
def ArgumentForm.ofText (argument : String) : ArgumentForm :=
  match argument.toList with
  | ['-', '-'] => .separator
  | '-' :: '-' :: cs =>
    let name := String.ofList ('-' :: '-' :: cs.takeWhile (· ≠ '='))
    match cs.dropWhile (· ≠ '=') with
    | [] => .long name none
    | _ :: value => .long name (some (String.ofList value))
  | '-' :: c :: cs => .short (c :: cs)
  | _ => .plain

/-- Whether an option takes a value. -/
def takesValue (name : String) : Bool :=
  name == "--context-dir" || name == "--log-level"

/-- Whether an option is a flag. -/
def isFlag (name : String) : Bool :=
  name == "--skip-push" || name == "--dry-run"

namespace Arguments

/-- Reads arguments behind the separator. -/
def parsePlain : ArgumentsDraft → List String → Except UsageFault Wish
  | d, [] => d.finish
  | d, argument :: rest =>
    match d.keepConfig argument with
    | .error fault => .error fault
    | .ok d => parsePlain d rest

/-- Reads arguments into a draft; `awaiting` is the option whose value comes next. -/
def parseFrom : ArgumentsDraft → (awaiting : Option String) → List String →
    Except UsageFault Wish
  | d, none, [] => d.finish
  | _, some name, [] => .error (.missingValue name)
  | d, some name, argument :: rest =>
    match ArgumentForm.ofText argument with
    | .plain =>
      match d.keepValue name argument with
      | .error fault => .error fault
      | .ok d => parseFrom d none rest
    | _ => .error (.missingValue name)
  | d, none, argument :: rest =>
    match ArgumentForm.ofText argument with
    | .plain =>
      match d.keepConfig argument with
      | .error fault => .error fault
      | .ok d => parseFrom d none rest
    | .separator => parsePlain d rest
    | .short letters =>
      if letters.head? = some 'h' then .ok .help else .error (.unexpected argument)
    | .long name none =>
      if name = "--help" then .ok .help
      else if takesValue name then parseFrom d (some name) rest
      else if isFlag name then
        match d.keepFlag name with
        | .error fault => .error fault
        | .ok d => parseFrom d none rest
      else .error (.unexpected argument)
    | .long name (some value) =>
      if takesValue name then
        match d.keepValue name value with
        | .error fault => .error fault
        | .ok d => parseFrom d none rest
      else if name = "--help" ∨ isFlag name then .error (.needlessValue name)
      else .error (.unexpected argument)

/-- What a command line asks for. -/
def parse (arguments : List String) : Except UsageFault Wish :=
  parseFrom .empty none arguments

end Arguments

end ImageBuild
