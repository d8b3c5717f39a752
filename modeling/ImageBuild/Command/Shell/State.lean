import ImageBuild.Command.Host
import ImageBuild.Command.Shell.Syntax
import ImageBuild.Text.Octets

/-!
# The state of a shell

A shell has files, streams, variables and functions. Each number of a stream leads to a `Handle`, which
numbers may share. A step of the shell changes its `State` and may end what is going on early: that is a
`Flow`. All texts are texts of octets.
-/

namespace ImageBuild.Shell

/-- What a stream reads from or writes to. -/
inductive Handle
  /-- Bytes that are left to be read. -/
  | source (left : List UInt8)
  /-- Bytes that have been written. -/
  | sink (written : Array UInt8)
  /-- What the process itself writes to. -/
  | channel (c : Channel)
  /-- A place in a file; what is written may always go to the end. -/
  | file (place : Place) (offset : Nat) (appends : Bool)
  /-- Nothing: it is empty, and what is written to it is lost. -/
  | nowhere
  /-- A device that takes nothing. -/
  | full

/-- How a shell speaks: one style has few words and resolves escapes wherever it writes, the other one
has more words and does so only if it is told to. -/
inductive Style
  | brief
  | verbose
  deriving DecidableEq, Repr

/-- A variable. -/
structure Variable where
  value : Option String
  exported : Bool
  fixed : Bool
  deriving DecidableEq, Repr

/-- Commands that are not waited for, with what they see of the shell that began them. They run when the
shell waits, or at its end. -/
structure Job where
  /-- The number of the process. -/
  number : Nat
  /-- How it has ended, if it has. -/
  status : Option Nat
  streams : List (Nat × Nat)
  dir : Place
  path : String
  bindings : List (String × Variable)
  functions : List (String × Command)
  args : List String
  options : List Char
  commands : List Command

/-- What a shell knows. -/
structure State where
  style : Style
  files : FileSystem
  /-- What the process has written, in order. -/
  log : Array (Channel × List UInt8)
  handles : Array Handle
  /-- The handles of the streams by their numbers. -/
  streams : List (Nat × Nat)
  dir : Place
  /-- The path to the working directory as it was walked. -/
  path : String
  bindings : List (String × Variable)
  functions : List (String × Command)
  /-- What to do when something happens, by the number of a signal, or zero for the end. -/
  traps : List (Nat × String)
  /-- The signals that have come and have a trap. -/
  pending : List Nat
  /-- The name of the script. -/
  name : String
  args : List String
  status : Nat
  /-- How the last command within a word has ended, if there was one. -/
  wordStatus : Option Nat
  /-- The line of the command that runs. -/
  line : Nat
  /-- The command of the shell that runs, if one does. -/
  running : Option String
  options : List Char
  /-- Whether the end of a command is looked at, so that a failure ends nothing. -/
  tested : Bool
  /-- Whether the command is the last one, so that nothing is left to be done after it. -/
  final : Bool
  /-- The number of loops that are running. -/
  loops : Nat
  /-- The variables as they were before functions made them their own, innermost function first. -/
  hidden : List (List (String × Option Variable))
  /-- The commands that are not waited for. -/
  jobs : List Job
  /-- Whether something could not be written. -/
  broken : Bool
  /-- How far the options of an argument have been looked at. -/
  optionOffset : Option Nat
  /-- Programs that were run, by their paths. -/
  found : List String
  /-- Texts that stand for commands, by their names. -/
  aliases : List (String × String)
  /-- The permissions that new files do not get. -/
  mask : Mode

/-- What ends a sequence of commands early. -/
inductive Flow
  /-- The end of the shell. -/
  | exit
  /-- The end of the shell by a signal. -/
  | killed (signal : Nat)
  /-- The end by a signal of a program that has taken the place of the shell, or of a part of it. -/
  | replaced (signal : Nat)
  /-- The end of a function. -/
  | back
  /-- The end of some loops. -/
  | leave (loops : Nat)
  /-- The end of some loops but one, which goes on with its next round. -/
  | again (loops : Nat)
  /-- A fault that has been reported. -/
  | fault
  deriving DecidableEq, Repr

/-- A step of a shell. -/
abbrev Run := ExceptT Flow (StateM State)

namespace Run

/-- The files of the shell changed. -/
def setFiles (files : FileSystem) : Run Unit := modify fun s => { s with files := files }

/-- Sets how the last command ended. -/
def setStatus (n : Nat) : Run Unit := modify fun s => { s with status := n }

/-! ## Streams -/

/-- Puts bytes into others from an offset on. -/
def overwrite (before : List UInt8) (offset : Nat) (bytes : List UInt8) : List UInt8 :=
  let start := before.take offset
  let gap := List.replicate (offset - start.length) (0 : UInt8)
  start ++ gap ++ bytes ++ before.drop (offset + bytes.length)

/-- The time of a file that is written by a command. -/
def now : Time := ⟨1700000000, 0⟩

/-- The state after bytes were written to a handle. -/
def writeHandle (s : State) (h : Nat) (bytes : List UInt8) : State :=
  match s.handles[h]? with
  | some (.sink written) =>
    { s with handles := s.handles.set! h (.sink (bytes.foldl Array.push written)) }
  | some (.channel c) => { s with log := s.log.push (c, bytes) }
  | some (.file place offset appends) =>
    match s.files.lookup place with
    | some (.file content mode _) =>
      let start := if appends then content.length else offset
      { s with
        files := s.files.insert place (.file (overwrite content start bytes) mode now)
        handles := s.handles.set! h (.file place (start + bytes.length) appends) }
    | _ => s
  | _ => s

/-- Writes bytes to a stream. -/
def writeBytes (fd : Nat) (bytes : List UInt8) : Run Unit := modify fun s =>
  if bytes = [] then s
  else
    match s.streams.lookup fd with
    | some h =>
      match s.handles[h]? with
      | some .full => { s with broken := s.broken || fd = 1 }
      | _ => writeHandle s h bytes
    | none => { s with broken := s.broken || fd = 1 }

/-- Writes a text to a stream. -/
def write (fd : Nat) (text : String) : Run Unit := writeBytes fd (Text.Octets.toBytes text)

/-- The bytes that are left in a stream. -/
def leftIn (s : State) (fd : Nat) : List UInt8 :=
  match (s.streams.lookup fd).bind fun h => s.handles[h]? with
  | some (.source left) => left
  | some (.file place offset _) =>
    match s.files.lookup place with
    | some (.file content _ _) => content.drop offset
    | _ => []
  | _ => []

/-- Leaves bytes of a stream behind. -/
def consume (fd n : Nat) : Run Unit := modify fun s =>
  match s.streams.lookup fd with
  | none => s
  | some h =>
    match s.handles[h]? with
    | some (.source left) => { s with handles := s.handles.set! h (.source (left.drop n)) }
    | some (.file place offset appends) =>
      { s with handles := s.handles.set! h (.file place (offset + n) appends) }
    | _ => s

/-- Gives a stream a new handle. -/
def attach (fd : Nat) (handle : Handle) : Run Unit := modify fun s =>
  { s with
    handles := s.handles.push handle
    streams := (fd, s.handles.size) :: s.streams.filter fun (n, _) => n ≠ fd }

/-- Makes a stream that of another number. -/
def share (fd other : Nat) : Run Unit := modify fun s =>
  match s.streams.lookup other with
  | some h => { s with streams := (fd, h) :: s.streams.filter fun (n, _) => n ≠ fd }
  | none => s

/-- Closes a stream. -/
def close (fd : Nat) : Run Unit := modify fun s =>
  { s with streams := s.streams.filter fun (n, _) => n ≠ fd }

/-! ## Messages -/

/-- Writes a message to the error stream. -/
def warn (message : String) : Run Unit := do
  let s ← get
  let command :=
    match s.running with
    | some name => name ++ ": "
    | none => ""
  let line := if s.style = .verbose then "line " else ""
  write 2 (s.name ++ ": " ++ line ++ toString s.line ++ ": " ++ command ++ message ++ "\n")

/-- The one of two texts that suits the style of the shell. -/
def styled (brief verbose : String) : Run String := do
  let s ← get
  return if s.style = .verbose then verbose else brief

/-- Reports a fault. -/
def fail {α : Type} (message : String) : Run α := do
  warn message
  setStatus (if (← get).style = .verbose then 1 else 2)
  throw .fault

/-! ## Variables -/

/-- The text of a variable, if it has one. -/
def valueOf? (s : State) (name : String) : Option String :=
  (s.bindings.lookup name).bind (·.value)

/-- Puts a variable in the place of the one with its name. -/
def withVariable (name : String) (v : Variable) (all : List (String × Variable)) :
    List (String × Variable) :=
  if (all.lookup name).isSome then all.map fun (n, w) => if n = name then (n, v) else (n, w)
  else all ++ [(name, v)]

/-- Changes a variable; the change is given what it was before. -/
def changeVariable (name : String) (change : Variable → Variable) : Run Unit := modify fun s =>
  let before := (s.bindings.lookup name).getD ⟨none, false, false⟩
  { s with bindings := withVariable name (change before) s.bindings }

/-- Gives a variable a value. -/
def setVariable (name value : String) : Run Unit := do
  let s ← get
  if (s.bindings.lookup name).any (·.fixed) then
    fail (name ++ ": " ++ (← styled "is read only" "readonly variable"))
  else
    let marks := s.options.contains 'a'
    changeVariable name fun v => ⟨some value, v.exported || marks, v.fixed⟩

/-- The variables that commands see. -/
def environment (s : State) : List (String × String) :=
  s.bindings.filterMap fun (name, v) =>
    if v.exported then v.value.map fun value => (name, Text.Octets.toText value) else none

end Run

end ImageBuild.Shell
