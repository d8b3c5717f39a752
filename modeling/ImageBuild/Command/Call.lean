import ImageBuild.Command.Host
import ImageBuild.Text.Octets

/-!
# Calls of programs

A program works through its arguments: it writes, complains, changes files, and may stop early with a
code. `Working` is a step of that; `Call.run` makes a program of it. Texts of files and arguments are
texts of octets.
-/

namespace ImageBuild.Programs

/-- A text between quotes. -/
def quoted (s : String) : String := "'" ++ s ++ "'"

/-- Whether a character needs no quotes in a message. -/
def isPlainChar (c : Char) : Bool :=
  c.isAlphanum || "%+,-./:=@_^]\x7b\x7d".toList.contains c || 127 < c.toNat

/-- A text as messages show it: between quotes if it needs them. -/
def shown (s : String) : String :=
  if s ≠ "" && s.toList.all isPlainChar then s
  else if s.toList.contains '\'' && !s.toList.contains '"' then "\"" ++ s ++ "\""
  else quoted s

/-- What a process has done so far. -/
structure Work where
  files : FileSystem
  writes : Array (Channel × List UInt8)
  /-- The code that it will end with. -/
  code : UInt8
  taken : Nat

/-- A step of a process; it may stop with a code. -/
abbrev Working := ExceptT UInt8 (StateM Work)

namespace Call

/-- Writes a text of octets. -/
def write (text : String) : Working Unit :=
  modify fun w => { w with writes := w.writes.push (.output, Text.Octets.toBytes text) }

/-- Writes a line. -/
def line (text : String) : Working Unit := write (text ++ "\n")

/-- Writes a message under the name of the program. -/
def say (i : Invocation) (message : String) : Working Unit :=
  modify fun w =>
    { w with writes := w.writes.push (.error, Text.Utf8.encode (i.name ++ ": " ++ message ++ "\n")) }

/-- Writes a message; the program goes on and ends with a code. -/
def complain (i : Invocation) (message : String) (code : UInt8) : Working Unit := do
  say i message
  modify fun w => { w with code := code }

/-- Writes a message and stops. -/
def stop {α : Type} (i : Invocation) (message : String) (code : UInt8) : Working α := do
  say i message
  throw code

/-- Complains about a wrong call. -/
def misuse {α : Type} (i : Invocation) (message : String) (code : UInt8) : Working α :=
  stop i (message ++ "\nTry '" ++ i.name ++ " --help' for more information.") code

/-- The files as they are now. -/
def files : Working FileSystem := do
  let w ← get
  return w.files

/-- Changes the files, or complains about a fault. -/
def change (i : Invocation) (code : UInt8) (message : FileFault → String)
    (result : Except FileFault FileSystem) : Working Unit :=
  match result with
  | .ok files => modify fun w => { w with files := files }
  | .error fault => complain i (message fault) code

/-- The bytes of the input that are left, which are taken. -/
def input (i : Invocation) : Working (List UInt8) := do
  let w ← get
  set { w with taken := i.stdin.length }
  return i.stdin.drop w.taken

/-- The bytes of a file, or of the input for a dash. -/
def content (i : Invocation) (name : String) : Working (Except FileFault (List UInt8)) := do
  if name = "-" || name = "/dev/stdin" then return .ok (← input i)
  else if name = "/dev/null" then return .ok []
  else
    let fs ← files
    return fs.readBytes i.dir name

/-- The options that the letters of an argument are; the second part is one that still needs the next
argument. -/
def letters (i : Invocation) (known valued : List Char) (code : UInt8) :
    List Char → Working (List (Char × String) × Option Char)
  | [] => return ([], none)
  | c :: cs =>
    if valued.contains c then
      if cs = [] then return ([], some c) else return ([(c, String.ofList cs)], none)
    else if known.contains c then do
      let (rest, needs) ← letters i known valued code cs
      return ((c, "") :: rest, needs)
    else misuse i ("invalid option -- '" ++ String.ofList [c] ++ "'") code

/-- The options among arguments, and the other ones. -/
def options (i : Invocation) (known valued : List Char) (code : UInt8) :
    List String → Working (List (Char × String) × List String)
  | [] => return ([], [])
  | "--" :: rest => return ([], rest)
  | arg :: rest =>
    match arg.toList with
    | '-' :: '-' :: _ => misuse i ("unrecognized option '" ++ arg ++ "'") code
    | '-' :: c :: cs => do
      let (first, needs) ← letters i known valued code (c :: cs)
      match needs, rest with
      | none, rest => do
        let (more, left) ← options i known valued code rest
        return (first ++ more, left)
      | some c, [] =>
        misuse i ("option requires an argument -- '" ++ String.ofList [c] ++ "'") code
      | some c, value :: rest => do
        let (more, left) ← options i known valued code rest
        return (first ++ (c, value) :: more, left)
    | _ => do
      let (more, left) ← options i known valued code rest
      return (more, arg :: left)

/-- Whether an option is given. -/
def has (given : List (Char × String)) (c : Char) : Bool := given.any (·.1 = c)

/-- The value of an option that was given last. -/
def value? (given : List (Char × String)) (c : Char) : Option String :=
  (given.reverse.find? (·.1 = c)).map (·.2)

/-- The program that works as a step says. -/
def run (action : Invocation → Working Unit) : Program := fun i =>
  let (result, w) := (action i).run ⟨i.files, #[], 0, 0⟩ |>.run
  let code :=
    match result with
    | .ok () => w.code
    | .error code => code
  ⟨.exited code, w.writes.toList, some w.files, w.taken⟩

end Call

end ImageBuild.Programs
