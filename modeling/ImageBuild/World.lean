import ImageBuild.Backend.Basic
import ImageBuild.Output.Sink
import ImageBuild.VersionControl

/-!
# The world of a run

A run changes files, talks to a backend and to version control, writes output and records what it
does. `World` holds the state of all that; `events` lists the requests to the backend and to version
control in the order in which they were made. The settings of a run do not change.
-/

namespace ImageBuild

/-- A request to the backend or to version control. -/
inductive Event
  | build (dir : BuildDir) (reference : String)
  | tag (id repository tag : String)
  | push (repository tag : String)
  | find (pattern : Pattern)
  | removeReference (reference : String)
  | query (query : Query) (root : String)

/-- The state of everything that a run changes. The backend and version control share the state
`service`. -/
structure World (σ : Type) where
  files : FileSystem
  /-- The working directory of the process. -/
  cwd : Place
  /-- The directory in which working directories are made. -/
  temp : String
  /-- How many names of working directories are used up. -/
  serial : Nat
  service : σ
  stdout : Sink
  stderr : Sink
  records : List LogRecord
  events : List Event

/-- The settings of a run. -/
structure Settings (σ : Type) where
  /-- The root of the context, to which dockerfile paths are relative. -/
  context : String
  /-- The backend, if there is one. -/
  backend : Option (Backend σ)
  provider : Provider σ
  /-- Whether every push is skipped. -/
  skipPush : Bool

namespace World

variable {σ : Type}

/-- Adds records. -/
def log (w : World σ) (records : List LogRecord) : World σ :=
  { w with records := w.records ++ records }

/-- Adds an event. -/
def note (w : World σ) (event : Event) : World σ :=
  { w with events := w.events ++ [event] }

/-- Forwards a piece of output to its sink. -/
def forwardOne (w : World σ) : Output → World σ
  | .line .stdout text =>
    let (sink, records) := w.stdout.writeLine text
    { w with stdout := sink, records := w.records ++ records }
  | .line .stderr text =>
    let (sink, records) := w.stderr.writeLine text
    { w with stderr := sink, records := w.records ++ records }
  | .lines .stdout text =>
    let (sink, records) := w.stdout.writeLines text
    { w with stdout := sink, records := w.records ++ records }
  | .lines .stderr text =>
    let (sink, records) := w.stderr.writeLines text
    { w with stderr := sink, records := w.records ++ records }

/-- Forwards output, piece by piece. -/
def forward (w : World σ) (output : List Output) : World σ :=
  output.foldl forwardOne w

/-- Makes a request to the backend: the event, the state and the output that it leaves behind, and
the result. -/
def request {α : Type} (w : World σ) (event : Event) (call : σ → Answer σ α) :
    World σ × Except BackendFault α :=
  let answer := call w.service
  ({ w.note event with service := answer.state }.forward answer.output, answer.result)

/-- Asks version control about a directory. -/
def ask (w : World σ) (provider : Provider σ) (query : Query) (root : String) :
    World σ × Except Frames String :=
  let (state, result) := provider.answer w.service query root
  ({ w.note (.query query root) with service := state }, result)

end World

end ImageBuild
