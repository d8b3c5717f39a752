import ImageBuild.Command.Shell.Reader
import ImageBuild.Command.Shell.State

/-!
# What names of commands stand for

A name is looked for among the reserved words, the commands that belong to the shell most, the functions,
the other commands of the shell and the programs in the directories of `PATH`.
-/

namespace ImageBuild.Shell

/-- The commands of the shell that functions may stand before. -/
def regularNames : List String :=
  ["alias", "bg", "cd", "chdir", "command", "echo", "false", "fg", "getopts", "hash", "jobs", "kill",
   "printf", "pwd", "read", "test", "[", "true", "type", "ulimit", "umask", "unalias", "wait"]

/-- What a name of a command stands for. -/
inductive Meaning
  | keyword
  | special
  | function (body : Command)
  | regular
  /-- A program, by its path. -/
  | program (path : String)
  | missing

namespace Meaning

/-- The host as a shell sees it. -/
def hostOf (programs : String → Option Program) (s : State) : Host where
  files := s.files
  cwd := s.dir
  environment := Run.environment s
  programs := programs

/-- The directories that programs are looked for in, if nothing says otherwise. -/
def defaultPath : String := "/usr/local/sbin:/usr/local/bin:/usr/sbin:/usr/bin:/sbin:/bin"

/-- Whether a path leads to a file or an installed program. -/
def leadsToFile (host : Host) (path : String) : Bool :=
  let path := Text.Octets.toText path
  (host.installed? host.cwd path).isSome ||
    match host.files.resolve host.cwd path with
    | .ok place => host.files.isFileAt place
    | .error _ => false

/-- The path of a program in the directories of a list, which colons separate. -/
def inDirectories? (host : Host) (dirs name : String) : Option String :=
  ((Text.split ':' dirs.toList).map fun dir =>
    if dir = [] then name else String.ofList dir ++ "/" ++ name).find? (leadsToFile host)

/-- The path of the program of a name; a name with a slash is a path. -/
def program? (programs : String → Option Program) (s : State) (name : String) : Option String :=
  if name.toList.contains '/' then some name
  else inDirectories? (hostOf programs s) ((Run.valueOf? s "PATH").getD "") name

/-- What a name stands for where a command is run. -/
def ofName (programs : String → Option Program) (s : State) (name : String) : Meaning :=
  if specialNames.contains name then .special
  else
    match s.functions.lookup name with
    | some body => .function body
    | none =>
      if regularNames.contains name then .regular
      else
        match program? programs s name with
        | some path => .program path
        | none => .missing

/-- The answer about a name in words, or the shortest way to write it, and whether it stands for
anything. -/
def describe (programs : String → Option Program) (s : State) (inWords : Bool) (name : String) :
    String × Bool :=
  let answer (words : String) : String × Bool :=
    (if inWords then name ++ " is " ++ words ++ "\n" else name ++ "\n", true)
  let nothing : String × Bool := (if inWords then name ++ ": not found\n" else "", false)
  if keywords.contains name then answer "a shell keyword"
  else
    match ofName programs s name with
    | .keyword => answer "a shell keyword"
    | .special => answer "a special shell builtin"
    | .function _ => answer "a shell function"
    | .regular => answer "a shell builtin"
    | .missing => nothing
    | .program path =>
      if name.toList.contains '/' then
        let host := hostOf programs s
        let isThere := (host.installed? host.cwd (Text.Octets.toText name)).isSome ||
          (host.files.resolve host.cwd (Text.Octets.toText name)).toOption.isSome
        if isThere then answer name else nothing
      else if !inWords then (path ++ "\n", true)
      else if s.found.contains path then answer ("a tracked alias for " ++ path)
      else answer path

end Meaning

end ImageBuild.Shell
