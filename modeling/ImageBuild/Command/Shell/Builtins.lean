import ImageBuild.Command.Permission
import ImageBuild.Command.Printf
import ImageBuild.Command.Shell.Condition
import ImageBuild.Command.Shell.Expansion
import ImageBuild.Command.Shell.Lookup

/-!
# Commands of the shell itself

A command of the shell is given its arguments, changes the state of the shell and gives its status. Here
are those that run no other commands.
-/

namespace ImageBuild.Shell.Builtins

/-- A command of the shell. -/
abbrev Builtin := List String → Run Nat

/-! ## Arguments -/

/-- The options that the letters of an argument are; a letter among `valued` takes what stands behind
it, or the next argument. The second part says whether the last one still needs that. -/
def optionLetters (known valued : List Char) : List Char → Run (List (Char × String) × Bool)
  | [] => return ([], false)
  | c :: cs =>
    if valued.contains c then return ([(c, String.ofList cs)], cs.isEmpty)
    else if known.contains c then do
      let (rest, needs) ← optionLetters known valued cs
      return ((c, "") :: rest, needs)
    else Run.fail ("Illegal option -" ++ String.ofList [c])

/-- The options in front of other arguments, and those. -/
def options (known valued : List Char) : List String → Run (List (Char × String) × List String)
  | [] => return ([], [])
  | "--" :: rest => return ([], rest)
  | "-" :: rest => return ([], "-" :: rest)
  | arg :: rest =>
    match arg.toList with
    | '-' :: cs => do
      let (first, needs) ← optionLetters known valued cs
      match needs, rest with
      | false, rest => do
        let (more, left) ← options known valued rest
        return (first ++ more, left)
      | true, [] =>
        Run.fail ("No arg for -" ++ String.ofList (first.getLast?.toList.map (·.1)) ++ " option")
      | true, value :: rest => do
        let (more, left) ← options known valued rest
        return (first.dropLast ++ (first.getLast?.toList.map fun (c, _) => (c, value)) ++ more, left)
    | _ => return ([], arg :: rest)

/-- Complains about a number. -/
def badNumber {α : Type} (text : String) : Run α := Run.fail ("Illegal number: " ++ text)

/-- The number that an argument is. -/
def number (text : String) : Run Nat :=
  match Text.Numeral.decimal? text with
  | some n => if 0 ≤ n && n ≤ 2147483647 then return n.toNat else badNumber text
  | none => badNumber text

/-- Sets the variable of a name that has to be one. -/
def assign (name value : String) : Run Unit :=
  if isName name then Run.setVariable name value else Run.fail (name ++ ": bad variable name")

/-- The name and the value that an argument gives. -/
def assignment (arg : String) : String × Option String :=
  let name := arg.toList.takeWhile (· ≠ '=')
  if name.length = arg.length then (arg, none)
  else (String.ofList name, some (String.ofList (arg.toList.drop (name.length + 1))))

/-- A text between quotes, as the shell would read it. -/
def singleQuoted (s : String) : String :=
  let parts := (Text.split '\'' s.toList).map fun cs => "'" ++ String.ofList cs ++ "'"
  "\"'\"".intercalate parts

/-! ## Texts -/

/-- Writes its arguments with blanks between them and, unless told otherwise, a line break. -/
def echo : Builtin := fun args => do
  if (← get).style = .verbose then
    Run.write 1 (Programs.Printf.echoed args)
    return 0
  let (args, tail) := if args.head? = some "-n" then (args.drop 1, "") else (args, "\n")
  let (text, ended) := Programs.Printf.resolveEscapes [] (" ".intercalate args).toList
  Run.write 1 (String.ofList text ++ if ended then "" else tail)
  return 0

/-- Writes its arguments by a format. -/
def printf : Builtin := fun args => do
  let (_, args) ← options [] [] args
  match args with
  | [] => Run.fail "usage: printf format [arg ...]"
  | format :: args => do
    let verbose := (← get).style = .verbose
    let result := Programs.Printf.run (if verbose then .system else .shell) format args
    result.warnings.forM Run.warn
    if let some fault := result.fault then Run.warn fault
    Run.write 1 result.written
    return if result.fault.isSome then 2 else if result.failed then 1 else 0

/-- Answers a condition. -/
def test (programs : String → Option Program) (words : List String) : Run Nat := do
  let s ← get
  let host := Meaning.hostOf programs s
  let isProgram (path : String) : Bool :=
    path.toList.contains '/' && (host.installed? s.dir (Text.Octets.toText path)).isSome
  match Condition.eval ⟨s.files, s.dir, isProgram⟩ words with
  | .ok true => return 0
  | .ok false => return 1
  | .error message => do
    Run.warn message
    return 2

/-- Answers a condition in brackets. -/
def bracket (programs : String → Option Program) : Builtin := fun args =>
  if args.getLast?.any (·.startsWith "]") then test programs args.dropLast
  else do
    Run.warn "missing ]"
    return 2

/-! ## Reading -/

/-- A character that was read, and whether a backslash stood in front of it. -/
abbrev ReadChar := Char × Bool

/-- The characters of the first line of some bytes, how many bytes they take, and whether the line
has an end. -/
def firstLine (raw : Bool) : List UInt8 → List ReadChar × Nat × Bool
  | [] => ([], 0, false)
  | 10 :: _ => ([], 1, true)
  | 92 :: b :: rest =>
    if raw then
      let (line, n, ended) := firstLine raw (b :: rest)
      (('\\', false) :: line, n + 1, ended)
    else
      let (line, n, ended) := firstLine raw rest
      (if b = 10 then line else (Char.ofNat b.toNat, true) :: line, n + 2, ended)
  | 92 :: [] => (if raw then [('\\', false)] else [], 1, false)
  | b :: rest =>
    let (line, n, ended) := firstLine raw rest
    (if b = 0 then line else (Char.ofNat b.toNat, false) :: line, n + 1, ended)

/-- Whether a character that was read ends a field. -/
def endsField (ifs : List Char) (c : ReadChar) : Bool := !c.2 && ifs.contains c.1

/-- Whether a character that was read is a blank that ends a field. -/
def isBlank (ifs : List Char) (c : ReadChar) : Bool :=
  endsField ifs c && Expansion.isBlankSeparator c.1

/-- What follows the characters that end a field. -/
def afterField (ifs : List Char) (cs : List ReadChar) : List ReadChar :=
  match cs.dropWhile (isBlank ifs) with
  | c :: rest => if endsField ifs c then rest.dropWhile (isBlank ifs) else c :: rest
  | [] => []

/-- Cuts a line into as many fields as asked for; the last one takes what is left. -/
def readFields (ifs : List Char) : Nat → List ReadChar → List (List ReadChar)
  | 0, _ => []
  | 1, cs =>
    let field := cs.takeWhile fun c => !endsField ifs c
    if afterField ifs (cs.drop field.length) = [] then [field]
    else [(cs.reverse.dropWhile (isBlank ifs)).reverse]
  | n + 1, cs =>
    let field := cs.takeWhile fun c => !endsField ifs c
    field :: readFields ifs n (afterField ifs (cs.drop field.length))

/-- Reads a line into variables. -/
def read : Builtin := fun args => do
  let (given, names) ← options ['r'] ['p'] args
  if names.isEmpty then Run.fail "arg count"
  let s ← get
  let (line, n, ended) := firstLine (given.any (·.1 = 'r')) (Run.leftIn s 0)
  Run.consume 0 n
  let ifs := Expansion.separators s
  let fields := readFields ifs names.length (line.dropWhile (isBlank ifs))
  (names.zip fields).forM fun (name, field) => assign name (String.ofList (field.map (·.1)))
  return if ended then 0 else 1

/-- Looks at the next option of some arguments. -/
def getopts : Builtin := fun args => do
  match args with
  | text :: name :: given => do
    let s ← get
    let words := if given = [] then s.args else given
    let known := text.toList
    let quiet := known.head? = some ':'
    let index := ((Run.valueOf? s "OPTIND").bind Text.Numeral.decimal?).getD 1
    let index := if index < 1 || words.length + 1 < index.toNat then 1 else index.toNat
    let here := s.optionOffset.bind fun offset =>
      if index ≤ 1 then none
      else (words[index - 2]?).map fun w => w.toList.drop offset
    let fresh := here.getD [] = []
    let rest := if fresh then ((words[index - 1]?).getD "").toList else here.getD []
    let finish (index : Nat) (offset : Option Nat) (option : String) (status : Nat) : Run Nat := do
      Run.setVariable "OPTIND" (toString index)
      modify fun s => { s with optionOffset := offset }
      assign name option
      return status
    let forget : Run Unit := modify fun s =>
      { s with bindings := s.bindings.filter (·.1 ≠ "OPTARG") }
    let rest := if fresh then
        match rest with
        | '-' :: c :: cs => c :: cs
        | _ => []
      else rest
    let next := if fresh then index + 1 else index
    match rest with
    | [] => finish index none "?" 1
    | '-' :: [] => if fresh then finish next none "?" 1 else finish next none "?" 0
    | c :: after =>
      let word := ((words[next - 2]?).getD "").length
      let offset := if after = [] then none else some (word - after.length)
      match known.dropWhile (· ≠ c) with
      | [] => do
        if quiet then Run.setVariable "OPTARG" (String.ofList [c])
        else
          Run.write 2 ("Illegal option -" ++ String.ofList [c] ++ "\n")
          forget
        finish next offset "?" 0
      | _ :: ':' :: _ => do
        match after, words[next - 1]? with
        | [], none => do
          if quiet then Run.setVariable "OPTARG" (String.ofList [c])
          else
            Run.write 2 ("No arg for -" ++ String.ofList [c] ++ " option\n")
            forget
          finish next none (if quiet then ":" else "?") 0
        | [], some value => do
          Run.setVariable "OPTARG" value
          finish (next + 1) none (String.ofList [c]) 0
        | after, _ => do
          Run.setVariable "OPTARG" (String.ofList after)
          finish next none (String.ofList [c]) 0
      | _ => do
        Run.setVariable "OPTARG" ""
        finish next offset (String.ofList [c]) 0
  | _ => Run.fail "Usage: getopts optstring var [arg...]"

/-! ## Directories -/

/-- A path joined to another one, without steps that lead back. -/
def walked (path dest : String) : String :=
  let whole := if dest.startsWith "/" then dest else path ++ "/" ++ dest
  let parts := (Text.split '/' whole.toList).foldl (fun before part =>
    if part = [] || part = ['.'] then before
    else if part = ['.', '.'] then before.dropLast
    else before ++ [String.ofList part]) []
  let root := if whole.startsWith "//" && !whole.startsWith "///" then "//" else "/"
  root ++ "/".intercalate parts

/-- Changes the working directory. -/
def cd : Builtin := fun args => do
  let (given, args) ← options ['L', 'P'] [] args
  let physical := (given.getLast?.map (·.1)) = some 'P'
  let s ← get
  let back := args.head? = some "-"
  let dest :=
    match args.head? with
    | none => (Run.valueOf? s "HOME").getD ""
    | some "-" => (Run.valueOf? s "OLDPWD").getD ""
    | some dest => dest
  let path := walked s.path dest
  let target := if physical then (if dest = "" then "." else dest) else path
  match s.files.resolve s.dir (Text.Octets.toText target) with
  | .error fault =>
    Run.fail (← Run.styled ("can't cd to " ++ dest) (dest ++ ": " ++ fault.reason))
  | .ok place => do
    if !s.files.isDirAt place then
      Run.fail (← Run.styled ("can't cd to " ++ dest) (dest ++ ": Not a directory"))
    let path := if physical then Text.Octets.ofText (Place.text place) else path
    modify fun s => { s with dir := place, path := path }
    Run.changeVariable "OLDPWD" fun v => ⟨some s.path, true, v.fixed⟩
    Run.changeVariable "PWD" fun v => ⟨some path, true, v.fixed⟩
    if back then Run.write 1 (path ++ "\n")
    return 0

/-- Writes the working directory. -/
def pwd : Builtin := fun args => do
  let (given, _) ← options ['L', 'P'] [] args
  let s ← get
  if (given.getLast?.map (·.1)) = some 'P' then
    Run.write 1 (Text.Octets.ofText (Place.text s.dir) ++ "\n")
  else Run.write 1 (s.path ++ "\n")
  return 0

/-! ## Variables -/

/-- The variables in the order of their names. -/
def sortedVariables (s : State) : List (String × Variable) :=
  s.bindings.mergeSort fun a b => decide (a.1 ≤ b.1)

/-- Writes variables that read back, with a word in front. -/
def showVariables (word : String) (choose : Variable → Bool) : Run Unit := do
  let s ← get
  (sortedVariables s).forM fun (name, v) =>
    if !choose v then return
    else
      match v.value with
      | some value => Run.write 1 (word ++ name ++ "=" ++ singleQuoted value ++ "\n")
      | none => if word = "" then return else Run.write 1 (word ++ name ++ "\n")

/-- Marks variables and gives them values. -/
def declare (word : String) (choose : Variable → Bool) (mark : Variable → Variable) : Builtin :=
  fun args => do
    let (given, args) ← options ['p'] [] args
    if args.isEmpty || !given.isEmpty then
      showVariables (word ++ " ") choose
      return 0
    args.forM fun arg => do
      let (name, value) := assignment arg
      if !isName name then Run.fail (name ++ ": bad variable name")
      if let some value := value then Run.setVariable name value
      Run.changeVariable name mark
    return 0

/-- Marks variables for the programs that are run. -/
def exportNames : Builtin := declare "export" (·.exported) fun v => { v with exported := true }

/-- Marks variables that no longer change. -/
def readonlyNames : Builtin := declare "readonly" (·.fixed) fun v => { v with fixed := true }

/-- Forgets variables or functions. -/
def unset : Builtin := fun args => do
  let (given, names) ← options ['f', 'v'] [] args
  names.forM fun name => do
    if (given.getLast?.map (·.1)) = some 'f' then
      modify fun s => { s with functions := s.functions.filter (·.1 ≠ name) }
    else if !isName name then Run.fail (name ++ ": bad variable name")
    else if ((← get).bindings.lookup name).any (·.fixed) then Run.fail (name ++ ": is read only")
    else modify fun s => { s with bindings := s.bindings.filter (·.1 ≠ name) }
  return 0

/-- Makes variables those of the function that runs. -/
def localNames : Builtin := fun args => do
  if (← get).hidden.isEmpty then Run.fail "not in a function"
  args.forM fun arg => do
    let (name, value) := assignment arg
    if name ≠ "-" then
      if !isName name then Run.fail (name ++ ": bad variable name")
      modify fun s =>
        match s.hidden with
        | top :: rest => { s with hidden := ((name, s.bindings.lookup name) :: top) :: rest }
        | [] => s
      if let some value := value then Run.setVariable name value
  return 0

/-- Leaves arguments of the script behind. -/
def shift : Builtin := fun args => do
  let n ← match args with
    | [] => pure 1
    | text :: _ => number text
  if (← get).args.length < n then Run.fail "can't shift that many"
  modify fun s => { s with args := s.args.drop n, optionOffset := none }
  return 0

/-! ## Options -/

/-- The options of a shell by their letters, those that are shown last first. -/
def optionNames : List (Char × String) :=
  [('e', "errexit"), ('f', "noglob"), ('I', "ignoreeof"), ('i', "interactive"), ('m', "monitor"),
   ('n', "noexec"), ('s', "stdin"), ('x', "xtrace"), ('v', "verbose"), ('V', "vi"), ('E', "emacs"),
   ('C', "noclobber"), ('a', "allexport"), ('b', "notify"), ('u', "nounset"), ('p', "privileged")]

/-- Puts an option on or off. -/
def putOption (c : Char) (on : Bool) : Run Unit := do
  if !optionNames.any (·.1 = c) then Run.fail ("Illegal option -" ++ String.ofList [c])
  modify fun s =>
    let options := s.options.filter (· ≠ c)
    let options := if on then c :: options else options
    { s with options := (optionNames.map (·.1)).reverse.filter options.contains }

/-- Writes how the options are put. -/
def showOptions : Run Unit := do
  let s ← get
  Run.write 1 "Current option settings\n"
  optionNames.forM fun (c, name) =>
    Run.write 1 (name ++ String.ofList (List.replicate (16 - name.length) ' ') ++
      (if s.options.contains c then "on" else "off") ++ "\n")
  Run.write 1 "nolog           off\ndebug           off\n"

/-- Puts the options that the letters of an argument name; `o` takes its name from the next one. The
result says whether it did. -/
def putLetters (on : Bool) (next : Option String) : List Char → Run Bool
  | [] => return false
  | 'o' :: cs => do
    match next with
    | none => showOptions
    | some name =>
      match optionNames.find? (·.2 = name) with
      | some (c, _) => putOption c on
      | none =>
        if name ≠ "nolog" && name ≠ "debug" then Run.fail ("Illegal option -o " ++ name)
    let _ ← putLetters on none cs
    return true
  | c :: cs => do
    putOption c on
    putLetters on next cs

/-- Takes options off arguments and puts them; the arguments that are left, and whether they take the
place of those of the script even if there are none. -/
def putOptions : List String → Run (List String × Bool)
  | [] => return ([], false)
  | "--" :: rest => return (rest, true)
  | "-" :: rest => do
    modify fun s => { s with options := s.options.filter fun c => c ≠ 'x' && c ≠ 'v' }
    return (rest, false)
  | arg :: rest =>
    match arg.toList with
    | sign :: cs =>
      if sign = '-' || sign = '+' then do
        let took ← putLetters (sign = '-') rest.head? cs
        match took, rest with
        | true, _ :: rest => putOptions rest
        | _, rest => putOptions rest
      else return (arg :: rest, true)
    | [] => return (arg :: rest, true)

/-- Puts options and the arguments of the script. -/
def set : Builtin := fun args => do
  if args.isEmpty then
    showVariables "" fun _ => true
    return 0
  let (rest, replaces) ← putOptions args
  if replaces || !rest.isEmpty then
    modify fun s => { s with args := rest, optionOffset := none }
  return 0

/-! ## Signals -/

/-- The names of the signals by their numbers; zero stands for the end of the shell. -/
def signalNames : List String :=
  ["EXIT", "HUP", "INT", "QUIT", "ILL", "TRAP", "ABRT", "BUS", "FPE", "KILL", "USR1", "SEGV", "USR2",
   "PIPE", "ALRM", "TERM", "STKFLT", "CHLD", "CONT", "STOP", "TSTP", "TTIN", "TTOU", "URG", "XCPU",
   "XFSZ", "VTALRM", "PROF", "WINCH", "IO", "PWR", "SYS"]

/-- The signals that end no process. -/
def harmlessSignals : List Nat := [0, 17, 18, 19, 20, 21, 22, 23, 28]

/-- The number of a signal that is given by number or name. -/
def signal? (least : Nat) (text : String) : Option Nat :=
  match text.toNat? with
  | some n => if n < 65 && text.toList.all Char.isDigit then some n else none
  | none =>
    let upper := String.ofList (text.toList.map Char.toUpper)
    (signalNames.findIdx? (· = upper)).filter (least ≤ ·)

/-- Says what to do when signals come. -/
def trap : Builtin := fun args => do
  let (_, args) ← options [] [] args
  match args with
  | [] => do
    let s ← get
    (List.range 65).forM fun n =>
      match s.traps.lookup n with
      | some action =>
        Run.write 1 ("trap -- " ++ singleQuoted action ++ " " ++
          (signalNames[n]?).getD (toString n) ++ "\n")
      | none => return
    return 0
  | first :: rest =>
    let (action, names) :=
      if rest = [] || (first.toNat?).isSome then (none, first :: rest)
      else (if first = "-" then none else some first, rest)
    for name in names do
      match signal? 0 name with
      | none => do
        Run.write 2 ("trap: " ++ name ++ ": bad trap\n")
        return 1
      | some n =>
        modify fun s =>
          let others := s.traps.filter (·.1 ≠ n)
          { s with traps := (action.map fun a => (n, a)).toList ++ others }
    return 0

/-- A signal comes to the shell. -/
def receive (n : Nat) : Run Unit := do
  let s ← get
  match if n = 9 || n = 0 then none else s.traps.lookup n with
  | some action =>
    if action ≠ "" then modify fun s => { s with pending := s.pending ++ [n] }
  | none => if harmlessSignals.contains n then return else throw (.killed n)

/-- Writes the names of signals. -/
def listSignals (args : List String) : Run Nat := do
  match args with
  | [] => do
    (List.range 65).forM fun n =>
      Run.write 1 (if n = 0 then "0\n" else
        (signalNames[n]?).getD (if n < 34 then toString n else "RT") ++ "\n")
    return 0
  | text :: _ => do
    let n ← number text
    let n := if 128 < n then n - 128 else n
    match if n = 0 then none else signalNames[n]? with
    | some name => do
      Run.write 1 (name ++ "\n")
      return 0
    | none => Run.fail ("invalid signal number or exit status: " ++ text)

/-- Sends a signal. -/
def kill : Builtin := fun args => do
  let usage {α : Type} : Run α := Run.fail
    "Usage: kill [-s sigspec | -signum | -sigspec] [pid | job]... or\nkill -l [exitstatus]"
  match args with
  | [] => usage
  | first :: rest =>
    let direct := if first.startsWith "-" then signal? 1 (first.drop 1).toString else none
    let (given, targets) ←
      match direct with
      | some _ => pure ([], rest)
      | none => options ['l'] ['s'] args
    let signal ←
      match given.find? (·.1 = 's') with
      | some (_, name) =>
        match signal? 1 name with
        | some n => pure n
        | none => Run.fail ("invalid signal number or name: " ++ name)
      | none => pure (direct.getD 15)
    if given.any (·.1 = 'l') then listSignals targets
    else if targets = [] then usage
    else
      let mut status := 0
      for target in targets do
        let isGroup := target.startsWith "-"
        if target.startsWith "%" then Run.fail ("No such job: " ++ target)
        let n ← number (if isGroup then (target.drop 1).toString else target)
        let job := (← get).jobs.find? fun j => j.number = n && j.status.isNone
        if toString n = processNumber then receive signal
        else if job.isSome then
          if !harmlessSignals.contains signal then
            modify fun s => { s with jobs := s.jobs.map fun j =>
              if j.number = n then { j with status := some (128 + signal) } else j }
        else if n ≠ 0 || isGroup then
          Run.warn "No such process\n"
          status := 1
        else receive signal
      return status

/-! ## Others -/

/-- Ends the shell. -/
def exit : Builtin := fun args => do
  if let some text := args.head? then Run.setStatus ((← number text) % 256)
  throw .exit

/-- Ends a function. -/
def back : Builtin := fun args => do
  if let some text := args.head? then Run.setStatus (← number text)
  throw .back

/-- Ends loops or goes on with their next rounds. -/
def jump (flow : Nat → Flow) : Builtin := fun args => do
  let n ← match args with
    | [] => pure 1
    | text :: _ => do
      let n ← number text
      if n = 0 then badNumber text else pure n
  let n := min n (← get).loops
  if n = 0 then return 0
  Run.setStatus 0
  throw (flow n)

/-- Shows or takes the permissions that new files do not get. -/
def umask : Builtin := fun args => do
  let (given, args) ← options ['S'] [] args
  let s ← get
  let allowed := Programs.Permission.without 0o777 s.mask
  match args with
  | [] => do
    let digits := Nat.toDigits 8 s.mask
    Run.write 1 (if !given.isEmpty then Programs.Permission.text allowed ++ "\n"
      else String.ofList (List.replicate (4 - digits.length) '0' ++ digits) ++ "\n")
    return 0
  | mode :: _ =>
    if mode.toList.head?.any Char.isDigit then
      if mode.toList.all Programs.Printf.isOctal then
        modify fun s => { s with mask := Programs.Printf.valueOf 8 mode.toList &&& 0o777 }
        return 0
      else badNumber mode
    else
      match Programs.Permission.changed? 0 true mode allowed with
      | some next => do
        modify fun s => { s with mask := Programs.Permission.without 0o777 next }
        return 0
      | none => Run.fail ("Illegal mode: " ++ mode)

/-- Tells how commands have ended that were waited for. -/
def wait : Builtin := fun args => do
  let mut status := 0
  for text in args do
    let jobs := (← get).jobs
    let job ←
      if text.startsWith "%" then
        match (text.drop 1).toString.toNat?.bind fun n => if n = 0 then none else jobs[n - 1]? with
        | some j => pure (some j)
        | none => Run.fail ("No such job: " ++ text)
      else do
        let n ← number text
        pure (jobs.find? (·.number = n))
    status := (job.bind (·.status)).getD 127
    if 128 < status then
      if let some words := Expansion.signalReport? (status - 128) then Run.write 2 (words ++ "\n")
  return status

/-- Complains that there is no job. -/
def noJob : Builtin := fun args =>
  match args with
  | [] => Run.fail "No current job"
  | job :: _ => Run.fail ("No such job: " ++ job)

/-- Shows that nothing limits the shell. -/
def ulimit : Builtin := fun args => do
  let (_, _) ← options "HSafctdsmnlpvr".toList [] args
  Run.write 1 "unlimited\n"
  return 0

/-- Lets names stand for texts, or shows those. -/
def aliasNames : Builtin := fun args => do
  let all := (← get).aliases
  if args.isEmpty then
    all.forM fun (name, value) => Run.write 1 (name ++ "=" ++ singleQuoted value ++ "\n")
    return 0
  let mut status := 0
  for arg in args do
    match assignment arg with
    | (name, some value) =>
      modify fun s => { s with aliases := s.aliases.filter (·.1 ≠ name) ++ [(name, value)] }
    | (name, none) =>
      match (← get).aliases.lookup name with
      | some value => Run.write 1 (name ++ "=" ++ singleQuoted value ++ "\n")
      | none => do
        Run.write 2 ("alias: " ++ name ++ " not found\n")
        status := 1
  return status

/-- Lets names stand for no texts any longer. -/
def unaliasNames : Builtin := fun args => do
  let (given, names) ← options ['a'] [] args
  if !given.isEmpty then
    modify fun s => { s with aliases := [] }
    return 0
  let mut status := 0
  for name in names do
    if ((← get).aliases.lookup name).isSome then
      modify fun s => { s with aliases := s.aliases.filter (·.1 ≠ name) }
    else
      Run.write 2 ("unalias: " ++ name ++ " not found\n")
      status := 1
  return status

/-- Remembers where programs are. -/
def hash (programs : String → Option Program) : Builtin := fun args => do
  let (given, names) ← options ['r', 'v'] [] args
  if !given.isEmpty then
    modify fun s => { s with found := [] }
    return 0
  if names.isEmpty then
    (← get).found.forM fun path => Run.write 1 (path ++ "\n")
    return 0
  let mut status := 0
  for name in names do
    match Meaning.ofName programs (← get) name with
    | .missing => do
      Run.warn (name ++ ": not found")
      status := 1
    | .program path => modify fun s => { s with found := path :: s.found.filter (· ≠ path) }
    | _ => pure ()
  return status

/-- Tells what names of commands stand for. -/
def type (programs : String → Option Program) : Builtin := fun names => do
  let mut status := 0
  for name in names do
    let (text, known) := Meaning.describe programs (← get) true name
    Run.write 1 text
    if !known then status := 127
  return status

/-- The commands that run no others, by their names. -/
def table (programs : String → Option Program) : List (String × Builtin) :=
  [(":", fun _ => return 0), ("true", fun _ => return 0), ("false", fun _ => return 1),
   ("echo", echo), ("printf", printf), ("test", test programs), ("[", bracket programs), ("read", read),
   ("getopts", getopts), ("cd", cd), ("chdir", cd), ("pwd", pwd), ("export", exportNames),
   ("readonly", readonlyNames), ("unset", unset), ("local", localNames), ("shift", shift),
   ("set", set), ("trap", trap), ("kill", kill), ("exit", exit), ("return", back),
   ("break", jump .leave), ("continue", jump .again), ("umask", umask), ("wait", wait),
   ("fg", noJob), ("bg", noJob), ("jobs", fun _ => return 0), ("ulimit", ulimit),
   ("times", fun _ => do
      Run.write 1 "0m0.000000s 0m0.000000s\n0m0.000000s 0m0.000000s\n"
      return 0),
   ("alias", aliasNames), ("unalias", unaliasNames), ("hash", hash programs),
   ("type", type programs)]

end ImageBuild.Shell.Builtins
