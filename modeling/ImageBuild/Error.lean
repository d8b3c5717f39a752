import ImageBuild.Config.Validate
import ImageBuild.Json.Fault
import ImageBuild.Staging

/-!
# Errors of a build

Every error has a cause, a wording and an exit code. An error that comes from a backend or from
version control carries the frames of its report, innermost first.
-/

namespace ImageBuild

/-- The messages of a report, innermost first. -/
abbrev Frames := List String

/-- Why there is no configuration to work with. -/
inductive ConfigError
  | unreadable (path : String) (cause : FileFault)
  | malformed (document : String) (fault : Json.Fault)
  | notWellFormed (fault : ConfigFault)
  | other (reason : String)

/-- The wording of a configuration error. -/
def ConfigError.message : ConfigError → String
  | .unreadable path cause => "could not read " ++ Text.quoted path ++ ": " ++ cause.message
  | .malformed document fault => "malformed config: " ++ fault.message document.toList
  | .notWellFormed fault => fault.message
  | .other reason => reason

/-- Why there is no working directory. -/
inductive WorkdirFault
  /-- None was made before it was needed. -/
  | notAllocated
  /-- None can be made. -/
  | unavailable (cause : FileFault)
  deriving DecidableEq

/-- Why a build fails. -/
inductive BuildError
  | config (cause : ConfigError)
  | sandbox (cause : SandboxFault)
  | workdir (cause : WorkdirFault)
  | staging (cause : StagingFault)
  /-- No section is bound whose files could be staged. -/
  | noSection
  /-- The backend is not attached to anything. -/
  | notConfigured
  | backend (operation : String) (frames : Frames)
  /-- A step that needs an image has none. -/
  | noImage (step : String)
  | versionControl (spec : String) (frames : Frames)

namespace BuildError

/-- The wording of an error. -/
def message : BuildError → String
  | .config cause => "invalid configuration: " ++ cause.message
  | .sandbox cause => "dockerfile rejected: " ++ cause.message
  | .workdir _ => "could not prepare a temporary workdir"
  | .staging _ => "could not stage the build context into the workdir"
  | .noSection => "no command sub sequence set, cannot perform setup"
  | .notConfigured => "no container backend is configured"
  | .backend operation _ => "backend `" ++ operation ++ "` failed"
  | .noImage step => "`" ++ step ++ "` has no image from a previous command to operate on"
  | .versionControl spec _ => "could not resolve tag `" ++ spec ++ "`"

/-- The exit code of a process that ends with an error. -/
def exitCode : BuildError → UInt8
  | .config _ => 2
  | .sandbox _ => 3
  | .workdir _ => 4
  | .staging _ => 5
  | .backend _ _ | .noImage _ => 6
  | .versionControl _ _ => 7
  | .noSection | .notConfigured => 1

/-- Whether an error says that no backend is attached. -/
def isNotConfigured : BuildError → Bool
  | .notConfigured => true
  | _ => false

end BuildError

/-- Why a backend does not answer. -/
inductive BackendFault
  /-- It is not attached to anything. -/
  | notConfigured
  | failed (frames : Frames)
  deriving DecidableEq, Repr

/-- The error of a backend operation that was not answered. -/
def BuildError.ofBackend (operation : String) : BackendFault → BuildError
  | .notConfigured => .notConfigured
  | .failed frames => .backend operation frames

end ImageBuild
