import ImageBuild.Command.Calculation
import ImageBuild.Command.Files
import ImageBuild.Command.Filters
import ImageBuild.Command.Shell.Condition

/-!
# Installed programs

The small programs that scripts call: they write texts, pass their input on or edit it, and end with
a code. Their messages begin with the name that they are called by.
-/

namespace ImageBuild.Programs

/-- A process that succeeds after writing some bytes. -/
def written (stdout : List UInt8) : Outcome :=
  ⟨.exited 0, [(.output, stdout)], none, 0⟩

/-- A process that fails with a code and a message. -/
def failure (code : UInt8) (message : String) : Outcome :=
  ⟨.exited code, [(.error, Text.Utf8.encode message)], none, 0⟩

/-- Ends at once with a code. -/
def exitWith (code : UInt8) : Program := fun _ => ⟨.exited code, [], none, 0⟩

/-- What is written under the name of a program to the error stream. -/
def said (i : Invocation) (message : String) : Channel × List UInt8 :=
  (.error, Text.Utf8.encode (i.name ++ ": " ++ message ++ "\n"))

/-- A process that fails with a code and a message under its name. -/
def refused (i : Invocation) (code : UInt8) (message : String) : Outcome :=
  ⟨.exited code, [said i message], none, 0⟩

/-- A message about a wrong call. -/
def misused (i : Invocation) (message : String) : Outcome :=
  refused i 1 (message ++ "\nTry '" ++ i.name ++ " --help' for more information.")

/-! ## Texts -/

/-- Writes its arguments by a format. -/
def printf : Program := fun i =>
  let args := if i.args.head? = some "--" then i.args.drop 1 else i.args
  match args with
  | [] => misused i "missing operand"
  | format :: args =>
    let result := Printf.run .system (Text.Octets.ofText format) (args.map Text.Octets.ofText)
    let warnings := result.warnings ++ result.fault.toList
    ⟨.exited (if result.failed || result.fault.isSome then 1 else 0),
      warnings.map (fun w => said i (Text.Octets.toText w)) ++
        [(.output, Text.Octets.toBytes result.written)], none, 0⟩

/-- Writes its arguments with blanks between them and, unless told otherwise, a line break. -/
def echo : Program := fun i =>
  written (Text.Octets.toBytes (Printf.echoed (i.args.map Text.Octets.ofText)))

/-- Writes the place of its working directory. -/
def pwd : Program := fun i => written (Text.Utf8.encode (Place.text i.dir ++ "\n"))

/-- Writes the content of files one after the other; its input stands for a dash or for no files. -/
def cat : Program := fun i =>
  let names := i.args.filter (· ≠ "-u")
  let names := if names.head? = some "--" then names.drop 1 else names
  let names := if names = [] then ["-"] else names
  let write (out : Outcome) (name : String) : Outcome :=
    if name = "-" || name = "/dev/stdin" then
      { out with
        writes := out.writes ++ [(.output, i.stdin.drop out.taken)]
        taken := i.stdin.length }
    else if name = "/dev/null" then out
    else
      match i.files.readBytes i.dir name with
      | .ok bytes => { out with writes := out.writes ++ [(.output, bytes)] }
      | .error fault =>
        { out with
          ending := .exited 1
          writes := out.writes ++ [said i (shown name ++ ": " ++ fault.reason)] }
  names.foldl write ⟨.exited 0, [], none, 0⟩

/-- Answers a condition; between brackets if the program is called so. -/
def test : Program := fun i =>
  let words := i.args.map Text.Octets.ofText
  let bracket := i.name.endsWith "["
  if bracket && words.getLast? ≠ some "]" then refused i 2 "missing ']'"
  else
    match Shell.Condition.eval ⟨i.files, i.dir, fun _ => false⟩ (if bracket then words.dropLast else words) with
    | .ok answer => exitWith (if answer then 0 else 1) i
    | .error message => refused i 2 message

/-! ## Other programs -/

/-- The words of an argument that holds several. -/
def splitWords (text : String) : List String :=
  ((Text.split ' ' text.toList).filter (· ≠ [])).map String.ofList

/-- Takes options and variables in front of a command off arguments: what is left, and the environment
with them. The first argument bounds the number of arguments. -/
def environmentOf : Nat → List String → List (String × String) →
    List String × List (String × String)
  | 0, args, environment => (args, environment)
  | _, [], environment => ([], environment)
  | fuel + 1, arg :: rest, environment =>
    if arg = "-i" || arg = "-" then environmentOf fuel rest []
    else if arg = "--" then environmentOf fuel rest environment
    else if arg = "-u" then
      environmentOf fuel (rest.drop 1) (environment.filter fun (n, _) => some n ≠ rest.head?)
    else if arg = "-S" then
      environmentOf fuel ((rest.head?.map splitWords).getD [] ++ rest.drop 1) environment
    else if arg.startsWith "-S" then
      environmentOf fuel (splitWords (arg.drop 2).toString ++ rest) environment
    else
      let name := arg.toList.takeWhile (· ≠ '=')
      if name.length < arg.length then
        let name := String.ofList name
        let value := (arg.drop (name.length + 1)).toString
        environmentOf fuel rest (environment.filter (·.1 ≠ name) ++ [(name, value)])
      else (arg :: rest, environment)

/-- Runs a program in another environment, or writes that. -/
def env (programs : String → Option Program) : Program := fun i =>
  let size := i.args.length + (" ".intercalate i.args).length + 1
  let (command, environment) := environmentOf size i.args i.environment
  let host : Host := ⟨i.files, i.dir, environment, programs⟩
  match command with
  | [] =>
    written (Text.Utf8.encode (String.join (environment.map fun (n, v) => n ++ "=" ++ v ++ "\n")))
  | name :: args =>
    match host.program i.dir name with
    | .ok program => program { i with name := name, args := args, environment := environment }
    | .error .noProgram =>
      match programs "sh" with
      | some shell =>
        shell { i with name := "/bin/sh", args := name :: args, environment := environment }
      | none => exitWith 126 i
    | .error fault =>
      let hint :=
        if name.toList.contains ' ' && fault = .notFound then
          "\n" ++ i.name ++ ": use -[v]S to pass options in shebang lines"
        else ""
      refused i (if fault = .notFound then 127 else 126)
        (quoted name ++ ": " ++ fault.reason ++ hint)

/-- Writes the paths of programs. -/
def which (programs : String → Option Program) : Program := fun i =>
  let paths := i.args.map fun name =>
    if (programs name).isSome then some ("/usr/bin/" ++ name ++ "\n") else none
  ⟨.exited (if paths.all Option.isSome && paths ≠ [] then 0 else 1),
    paths.filterMap fun p => p.map fun p => (.output, Text.Utf8.encode p), none, 0⟩

/-- The programs by their names. -/
def programTable : List (String × Program) :=
  [("true", exitWith 0), ("false", exitWith 1), ("printf", printf), ("echo", echo), ("pwd", pwd),
   ("cat", cat), ("test", test), ("[", test), ("sleep", exitWith 0), ("expr", Calculation.expr)] ++ Filters.table ++ Files.table

end ImageBuild.Programs
