import ImageBuild.Command.Programs
import ImageBuild.Command.Shell.Builtins

/-!
# Running shell scripts

Each kind of command has a step here. What stands within another command is left to an `Engine`, and
engines are built on each other, so that a script may go as deep as the lowest one is. A command that
fails sets the status; what ends more than itself is a `Flow`.
-/

namespace ImageBuild.Shell.Engine

/-! ## Parts of the state that come back -/

/-- Runs a step; however it ends, part of the state is put back. -/
def keeping {α : Type} (undo : (before after : State) → State) (action : Run α) : Run α := fun s =>
  let (result, after) := (action.run s).run
  (result, undo s after)

/-- Runs a step whose status is looked at. -/
def testing (action : Run Unit) : Run Unit :=
  keeping (fun before after => { after with tested := before.tested, final := before.final }) do
    modify fun s => { s with tested := true, final := false }
    action

/-- Runs a step as a part of a shell after which something is left to do, unless it is the last. -/
def lastIf (last : Bool) (action : Run Unit) : Run Unit :=
  keeping (fun before after => { after with final := before.final }) do
    modify fun s => { s with final := s.final && last }
    action

/-- Runs a step under the name of a command, which its messages show. -/
def named {α : Type} (name : String) (action : Run α) : Run α :=
  keeping (fun before after => { after with running := before.running }) do
    modify fun s => { s with running := some name }
    action

/-- Runs a step and gives the streams back. -/
def keepingStreams {α : Type} (action : Run α) : Run α :=
  keeping (fun before after => { after with streams := before.streams }) action

/-- Variables with some of them as they were, the last one changed first. -/
def restored (saved : List (String × Option Variable)) (all : List (String × Variable)) :
    List (String × Variable) :=
  saved.foldl (fun all (name, before) =>
    match before with
    | some v => Run.withVariable name v all
    | none => all.filter (·.1 ≠ name)) all

/-- Ends the shell after a failure that nothing looks at, if it is to. -/
def checkFailure : Run Unit := do
  let s ← get
  if s.status ≠ 0 && s.options.contains 'e' && !s.tested then throw .exit

/-! ## Texts -/

/-- How many lines, rounds and traps a script may have. -/
def stepLimit : Nat := 1000000

/-- Runs what is left of a script; the answer says whether there was a command. The second argument
bounds the number of lines. -/
def runReader (e : Engine) : Nat → Reader → Run Bool
  | 0, _ => return false
  | fuel + 1, r => do
    if r.isDone then return false
    match { r with aliases := (← get).aliases }.next with
    | .error complaint => do
      modify fun s => { s with line := complaint.line }
      Run.fail complaint.message
    | .ok (commands, rest) => do
      lastIf rest.isAtEnd (e.run commands)
      let more ← runReader e fuel rest
      return more || !commands.isEmpty

/-- Runs a text. -/
def runText (e : Engine) (text : String) : Run Unit := do
  let line := (← get).line
  let ran ← runReader e (text.length + 1) (Reader.start text)
  if !ran then Run.setStatus 0
  modify fun s => { s with line := line }

/-- Does what is to be done when signals have come. The first argument bounds their number. -/
def runTraps (e : Engine) : Nat → Run Unit
  | 0 => return
  | fuel + 1 => do
    let s ← get
    match s.pending with
    | [] => return
    | n :: rest => do
      modify fun s => { s with pending := rest }
      lastIf false (runText e ((s.traps.lookup n).getD ""))
      Run.setStatus s.status
      runTraps e fuel

/-- Runs what is left of the commands that are not waited for. -/
def runJobs (e : Engine) : Run Unit := do
  for job in (← get).jobs do
    if job.status.isNone then
      keeping (fun before after =>
        { before with
          files := after.files
          log := after.log
          handles := after.handles
          jobs := before.jobs.map fun j =>
            if j.number = job.number then { j with status := some after.status } else j }) do
        modify fun s =>
          { s with
            streams := job.streams
            dir := job.dir
            path := job.path
            bindings := job.bindings
            functions := job.functions
            args := job.args
            options := job.options
            tested := false
            running := none }
        Run.attach 0 .nowhere
        Expansion.apart e do
          modify fun s => { s with final := true }
          e.run job.commands

/-- Does what is to be done at the end of a shell. -/
def leaveShell (e : Engine) : Run Unit := do
  let s ← get
  match s.traps.lookup 0 with
  | none => runJobs e
  | some action => do
    modify fun s => { s with traps := s.traps.filter (·.1 ≠ 0), tested := false, loops := 0 }
    let quits ← try
        lastIf false (runText e action)
        pure false
      catch
        | .killed n => throw (.killed n)
        | .exit | .fault => pure true
        | _ => pure false
    if !quits then Run.setStatus s.status
    runJobs e

/-! ## Redirections -/

/-- The device that a path names, if it is one. -/
inductive Device
  | nowhere
  | full
  | stream (n : Nat)
  | terminal

/-- The device of a path. -/
def device? (path : String) : Option Device :=
  match path with
  | "/dev/null" | "/dev/zero" => some .nowhere
  | "/dev/full" => some .full
  | "/dev/stdin" => some (.stream 0)
  | "/dev/stdout" => some (.stream 1)
  | "/dev/stderr" => some (.stream 2)
  | "/dev/tty" => some .terminal
  | path =>
    match path.toList with
    | ['/', 'd', 'e', 'v', '/', 'f', 'd', '/', c] => if c.isDigit then some (.stream (c.toNat - 48)) else none
    | _ => none

/-- Complains that a file can not be opened. -/
def refuseFile {α : Type} (access : Access) (name reason : String) : Run α :=
  Run.fail ((if access = .read then "cannot open " else "cannot create ") ++ name ++ ": " ++ reason)

/-- Complains about the fault of a path. -/
def refuseFault {α : Type} (access : Access) (name : String) (fault : FileFault) : Run α := do
  if (← get).style = .verbose then Run.fail (name ++ ": " ++ fault.reason)
  else
    refuseFile access name <|
      match fault with
      | .notFound | .notADirectory =>
        if access = .read then "No such file" else "Directory nonexistent"
      | fault => fault.reason

/-- The permissions of a new file. -/
def newMode (s : State) : Mode := Programs.Permission.without 0o666 s.mask

/-- Opens a file for a stream. -/
def openFile (fd : Nat) (access : Access) (name : String) : Run Unit := do
  match device? name with
  | some .nowhere => Run.attach fd .nowhere
  | some .full => Run.attach fd (if access = .read then .nowhere else .full)
  | some .terminal => refuseFile access name "No such device or address"
  | some (.stream n) =>
    if ((← get).streams.lookup n).isSome then Run.share fd n
    else refuseFault access name .notFound
  | none => do
    let s ← get
    match s.files.locate s.dir (Text.Octets.toText name) with
    | .failed fault => refuseFault access name fault
    | .missing place =>
      if access = .read then refuseFault access name .notFound
      else if name.endsWith "/" then refuseFault access name .isADirectory
      else
        Run.setFiles (s.files.insert place (.file [] (newMode s) Run.now))
        Run.attach fd (.file place 0 (access = .append))
    | .found place =>
      match s.files.lookup place with
      | some (.file _ mode _) =>
        if access = .write || access = .replace then
          if access = .write && s.options.contains 'C' then refuseFault access name .exists
          Run.setFiles (s.files.insert place (.file [] mode Run.now))
        Run.attach fd (.file place 0 (access = .append))
      | some (.dir _) =>
        if access = .read then Run.attach fd (.file place 0 false)
        else refuseFault access name .isADirectory
      | some (.socket _) => refuseFile access name "No such device or address"
      | _ => Run.attach fd .nowhere

/-- A redirection that is ready to be done. -/
inductive Turn
  | file (fd : Nat) (access : Access) (name : String)
  | copy (fd source : Nat)
  | close (fd : Nat)
  | text (fd : Nat) (body : String)

/-- Expands the word of a redirection. -/
def turnOf (e : Engine) : Redirect → Run Turn
  | .file fd access name => do
    let name ← Expansion.text e name
    return .file fd access name
  | .text fd body => do
    let pieces ← e.expand .whole body
    return .text fd (Expansion.textOf (Expansion.marked pieces))
  | .copy fd source => do
    let source ← Expansion.text e source
    match source.toList with
    | ['-'] => return .close fd
    | [c] =>
      if c.isDigit then return .copy fd (c.toNat - 48)
      else Run.fail "Syntax error: Bad fd number"
    | _ => Run.fail "Syntax error: Bad fd number"

/-- Redirects a stream. -/
def turn : Turn → Run Unit
  | .file fd access name => openFile fd access name
  | .close fd => Run.close fd
  | .text fd body => Run.attach fd (.source (Text.Octets.toBytes body))
  | .copy fd source => do
    if ((← get).streams.lookup source).isSome then Run.share fd source
    else Run.fail (toString source ++ ": Bad file descriptor")

/-- Redirects streams; the answer says whether that went well. -/
def redirect (turns : List Turn) : Run Bool := do
  try
    turns.forM turn
    return true
  catch
    | .fault => return false
    | flow => throw flow

/-! ## Programs -/

/-- Takes the outcome of the process of a program in. -/
def settle (name : String) (outcome : Outcome) : Run Unit := do
  Run.consume 0 outcome.taken
  if let some files := outcome.files then Run.setFiles files
  modify fun s => { s with broken := false }
  outcome.writes.forM fun (channel, bytes) =>
    Run.writeBytes (if channel = .output then 1 else 2) bytes
  let s ← get
  if s.broken then
    let reason := if (s.streams.lookup 1).isSome then "No space left on device"
      else "Bad file descriptor"
    Run.write 2 (name ++ (if name.endsWith "cat" then ": standard output: " else ": write error: ") ++
      reason ++ "\n")
  match outcome.ending with
  | .exited code => Run.setStatus (if s.broken then 1 else code.toNat)
  | .killed n => do
    let s ← get
    if s.final && s.traps.all (·.2 = "") then throw (.replaced n)
    else Expansion.reportSignal n

/-- Runs the program at a path under a name. A file that is no program is a script. -/
def runProgram (programs : String → Option Program) (path name : String) (args : List String) :
    Run Unit := do
  let s ← get
  let host := Meaning.hostOf programs s
  let start (program : Program) (name : String) (args : List String) : Run Unit :=
    settle name (program ⟨s.files, s.dir, Text.Octets.toText name, args.map Text.Octets.toText,
      Run.leftIn s 0, Run.environment s⟩)
  match host.programAt s.dir Host.interpreterLimit (Text.Octets.toText path) with
  | .ok program => start program name args
  | .error .noProgram =>
    match programs "sh" with
    | some program => start program "/bin/sh" (path :: args)
    | none => return
  | .error fault => do
    let missing := [.notFound, .notADirectory, .tooManyLinks, .nameTooLong].contains fault
    let brief :=
      if fault = .notFound || fault = .notADirectory then "not found" else fault.reason
    Run.warn (name ++ ": " ++ (← Run.styled brief fault.reason))
    Run.setStatus (if missing then 127 else 126)

/-- Runs the program of a name. -/
def runNamed (e : Engine) (programs : String → Option Program) (name : String) (args : List String) :
    Run Unit := do
  match Meaning.program? programs (← get) name with
  | none => do
    Run.warn (name ++ ": " ++ (← Run.styled "not found" "command not found"))
    Run.setStatus 127
  | some path => do
    if name = "sleep" then runJobs e
    if !name.toList.contains '/' then
      modify fun s => { s with found := path :: s.found.filter (· ≠ path) }
    runProgram programs path name args

/-! ## Commands that run others -/

/-- Runs the lines of a file. -/
def sourceFile (e : Engine) (programs : String → Option Program) (args : List String) :
    Run Unit := do
  let (_, args) ← Builtins.options [] [] args
  match args with
  | [] => Run.setStatus 0
  | name :: _ => do
    let s ← get
    let path :=
      if name.toList.contains '/' then some name
      else Meaning.inDirectories? (Meaning.hostOf programs s)
        ((Run.valueOf? s "PATH").getD "") name
    let some path := path | Run.fail (name ++ ": not found")
    if path = "/dev/null" then Run.setStatus 0
    else
      match s.files.readBytes s.dir (Text.Octets.toText path) with
      | .error fault => do
        refuseFault .read path fault
      | .ok bytes =>
        named path do
          try runText e (Text.Octets.ofBytes bytes) catch
            | .back => return
            | flow => throw flow

/-- Gives the place of the shell to a program. -/
def execute (e : Engine) (programs : String → Option Program) (args : List String) : Run Unit := do
  match args with
  | [] => Run.setStatus 0
  | name :: args => do
    modify fun s => { s with traps := s.traps.filter (·.2 = ""), final := true }
    runNamed e programs name args
    throw .exit

/-- Runs a command of the shell. -/
def runBuiltin (e : Engine) (programs : String → Option Program) (name : String)
    (args : List String) : Run Unit :=
  named name <|
    match name with
    | "eval" => runText e (" ".intercalate args)
    | "." => sourceFile e programs args
    | "exec" => execute e programs args
    | name => do
      if name = "wait" then runJobs e
      modify fun s => { s with broken := false }
      match (Builtins.table programs).lookup name with
      | some builtin => do
        let status ← builtin args
        if (← get).broken then
          Run.warn (name ++ ": I/O error")
          Run.setStatus 1
        else Run.setStatus status
      | none => Run.setStatus 0

/-- Tells about names of commands as `command` does. -/
def tell (programs : String → Option Program) (inWords : Bool) (names : List String) :
    Run Unit := do
  let (text, known) := Meaning.describe programs (← get) inWords (names.headD "")
  if names ≠ [] then
    Run.write 1 text
    Run.setStatus (if known then 0 else 127)
  else Run.setStatus 0

/-- Runs a function. -/
def call (e : Engine) (body : Command) (args : List String) : Run Unit :=
  keeping (fun before after =>
    { after with
      args := before.args
      loops := before.loops
      optionOffset := before.optionOffset
      hidden := before.hidden
      bindings := restored (after.hidden.headD []) after.bindings }) do
    modify fun s => { s with args := args, loops := 0, hidden := [] :: s.hidden }
    try lastIf false (e.run [body]) catch
      | .back => return
      | flow => throw flow

/-! ## Simple commands -/

/-- The commands of the shell whose arguments may be assignments. -/
def declaring : List String := ["export", "readonly", "local"]

/-- Expands the words of a command. -/
def expandWords (e : Engine) (words : List Word) : Run (List String) := do
  let mut all : List String := []
  for w in words do
    let isAssignment :=
      (match all with
      | "command" :: name :: _ => declaring.contains name
      | name :: _ => declaring.contains name
      | [] => false)
    let fields ←
      match isAssignment, Word.assignment? w with
      | true, some (name, value) => do
        let text ← Expansion.assignedText e value
        pure [name ++ "=" ++ text]
      | _, _ => Expansion.fields e w
    all := all ++ fields
  return all

/-- What is run: a command of the shell, a function or a program. -/
inductive Target
  | nothing
  | builtin (name : String) (args : List String)
  | function (body : Command) (args : List String)
  | program (name : String) (args : List String)
  /-- Names that something is to be told about. -/
  | told (inWords : Bool) (names : List String)
  /-- An option that is none. -/
  | wrong (option : Char)

/-- What words of a command run, and whether that is one of the commands that belong to the shell
most. Functions do not count behind `command`; the first argument bounds how often that stands there. -/
def targetOf (programs : String → Option Program) (s : State) :
    Nat → (plain : Bool) → List String → Target × Bool
  | _, _, [] => (.nothing, false)
  | 0, _, _ => (.nothing, false)
  | fuel + 1, plain, name :: args =>
    match Meaning.ofName programs (if plain then { s with functions := [] } else s) name with
    | .special => (.builtin name args, true)
    | .function body => (.function body args, false)
    | .regular =>
      if name = "command" then
        let given := args.takeWhile fun a => a.startsWith "-" && a ≠ "-" && a ≠ "--"
        let letters := given.flatMap fun a => a.toList.drop 1
        let rest := args.drop given.length
        let rest := if rest.head? = some "--" then rest.drop 1 else rest
        match letters.find? fun c => ! ['p', 'v', 'V'].contains c with
        | some c => (.wrong c, false)
        | none =>
          if letters.contains 'v' || letters.contains 'V' then
            (.told (letters.contains 'V') rest, false)
          else if rest = [] then (.told false [], false)
          else ((targetOf programs s fuel true rest).1, false)
      else (.builtin name args, false)
    | _ => (.program name args, false)

/-- Runs what a command stands for. -/
def runTarget (e : Engine) (programs : String → Option Program) (isSpecial : Bool) :
    Target → Run Unit
  | .nothing => do
    let s ← get
    Run.setStatus (s.wordStatus.getD 0)
  | .builtin name args =>
    if isSpecial then runBuiltin e programs name args
    else
      try runBuiltin e programs name args catch
        | .fault => return
        | flow => throw flow
  | .function body args => call e body args
  | .program name args => runNamed e programs name args
  | .told inWords names => tell programs inWords names
  | .wrong option => do
    try named "command" (Run.fail ("Illegal option -" ++ String.ofList [option])) catch _ => return

/-- Writes what is run to a stream, if the shell is to show it. -/
def trace (handle : Option Nat) (items : List String) : Run Unit := do
  let s ← get
  if s.options.contains 'x' then
    if let some h := handle then
      let text := (Run.valueOf? s "PS4").getD "" ++ " ".intercalate items ++ "\n"
      modify fun s => Run.writeHandle s h (Text.Octets.toBytes text)

/-- Sets variables for a command only. -/
def lend (name value : String) : Run Unit := do
  modify fun s =>
    match s.hidden with
    | top :: rest => { s with hidden := ((name, s.bindings.lookup name) :: top) :: rest }
    | [] => { s with hidden := [[(name, s.bindings.lookup name)]] }
  Run.setVariable name value
  Run.changeVariable name fun v => { v with exported := true }

/-- Runs a simple command. -/
def simple (e : Engine) (programs : String → Option Program) (line : Nat)
    (assignments : List (String × Word)) (words : List Word) (redirects : List Redirect) :
    Run Unit := do
  modify fun s => { s with line := line, wordStatus := none }
  let all ← expandWords e words
  let (target, isSpecial) := targetOf programs (← get) (all.length + 1) false all
  let isGlobal := isSpecial || words.isEmpty || all = []
  let staysOpen :=
    match target with
    | .builtin "exec" [] => true
    | _ => false
  let before ← get
  let turns ← redirects.mapM (turnOf e)
  let action : Run Unit := do
    if ← redirect turns then
      let mut values : List (String × String) := []
      for (name, w) in assignments do
        let value ← Expansion.assignedText e w
        if isGlobal then Run.setVariable name value else lend name value
        values := values ++ [(name, value)]
      let items := values.map (fun (n, v) => n ++ "=" ++ v) ++ all
      if !items.isEmpty then trace (before.streams.lookup 2) items
      runTarget e programs isSpecial target
    else if isSpecial then throw .fault
  let lending : Run Unit :=
    if isGlobal || assignments.isEmpty then action
    else
      keeping (fun before after =>
        { after with
          hidden := before.hidden
          bindings := restored (after.hidden.headD []) after.bindings }) do
        modify fun s => { s with hidden := [] :: s.hidden }
        action
  if staysOpen then lending else keepingStreams lending

/-! ## Compound commands -/

/-- Runs a command in a part of the shell. -/
def runApart (e : Engine) (commands : List Command) : Run Unit :=
  Expansion.apart e do
    modify fun s => { s with final := true }
    e.run commands

/-- Runs commands that feed each other. -/
def pipeline (e : Engine) : List Command → Run Unit
  | [] => return
  | [c] => keepingStreams (runApart e [c])
  | c :: rest => do
    let before ← get
    let place := before.handles.size
    keepingStreams do
      Run.attach 1 (.sink #[])
      runApart e [c]
    Run.setStatus before.status
    let s ← get
    let written :=
      match s.handles[place]? with
      | some (.sink written) => written.toList
      | _ => []
    keepingStreams do
      Run.attach 0 (.source written)
      pipeline e rest

/-- How a round of a loop ends. -/
inductive Round
  | done
  | again
  | left
  deriving DecidableEq

/-- Runs a part of a loop. -/
def round (action : Run Unit) : Run Round := do
  try
    action
    return .done
  catch
    | .leave n => if n ≤ 1 then return .left else throw (.leave (n - 1))
    | .again n => if n ≤ 1 then return .again else throw (.again (n - 1))
    | flow => throw flow

/-- Runs a step within a loop. -/
def looping (action : Run Unit) : Run Unit :=
  keeping (fun before after => { after with loops := before.loops, final := before.final }) do
    modify fun s => { s with loops := s.loops + 1, final := false }
    action

/-- Runs a body as long as a condition succeeds or, if that is inverted, fails. The status is that of
the last round. The first argument bounds the number of rounds. -/
def loop (e : Engine) (inverted : Bool) (condition body : List Command) : Nat → Nat → Run Unit
  | 0, status => Run.setStatus status
  | fuel + 1, status => do
    match ← round (testing (e.run condition)) with
    | .left => Run.setStatus status
    | .again => loop e inverted condition body fuel status
    | .done => do
      if ((← get).status = 0) = inverted then Run.setStatus status
      else
        match ← round (e.run body) with
        | .left => return
        | _ => loop e inverted condition body fuel (← get).status

/-- Runs a body for each of some texts. -/
def forEach (e : Engine) (name : String) (body : List Command) : List String → Run Unit
  | [] => return
  | text :: rest => do
    Run.setVariable name text
    match ← round (e.run body) with
    | .left => return
    | _ => forEach e name body rest

/-- Runs the commands of the first case that a text matches. -/
def select (e : Engine) (text : List Char) :
    List (List Word × List Command) → Run Unit
  | [] => Run.setStatus 0
  | (patterns, commands) :: rest => do
    let mut found := false
    for p in patterns do
      if !found then
        let glob ← Expansion.glob e p
        found := glob.holds text
    if found then
      if commands.isEmpty then Run.setStatus 0 else e.run commands
    else select e text rest

/-- Runs a command with its streams redirected. -/
def redirected (e : Engine) (line : Nat) (c : Command) (redirects : List Redirect) : Run Unit := do
  modify fun s => { s with line := line }
  let turns ← redirects.mapM (turnOf e)
  keepingStreams do
    if ← redirect turns then lastIf false (e.run [c])
    else checkFailure

/-- Runs a command of any kind. -/
def runCommand (e : Engine) (programs : String → Option Program) : Command → Run Unit
  | .simple line assignments words redirects => do
    simple e programs line assignments words redirects
    checkFailure
  | .pipeline commands => do
    pipeline e commands
    checkFailure
  | .negated c => do
    testing (e.run [c])
    let s ← get
    Run.setStatus (if s.status = 0 then 1 else 0)
  | .andThen first second => do
    testing (e.run [first])
    if (← get).status = 0 then e.run [second]
  | .orElse first second => do
    testing (e.run [first])
    if (← get).status ≠ 0 then e.run [second]
  | .list commands => e.run commands
  | .background c => modify fun s =>
    let job : Job :=
      { number := firstJob + s.jobs.length
        status := none
        streams := s.streams
        dir := s.dir
        path := s.path
        bindings := s.bindings
        functions := s.functions
        args := s.args
        options := s.options
        commands := [c] }
    { s with jobs := s.jobs ++ [job], status := 0 }
  | .subshell line commands => do
    modify fun s => { s with line := line }
    runApart e commands
    checkFailure
  | .branch condition yes no => do
    testing (e.run condition)
    if (← get).status = 0 then e.run yes
    else if no.isEmpty then Run.setStatus 0
    else e.run no
  | .loop inverted condition body => looping (loop e inverted condition body stepLimit 0)
  | .forEach line name words body => do
    modify fun s => { s with line := line }
    let texts ← expandWords e words
    Run.setStatus 0
    looping (forEach e name body texts)
  | .select line word cases => do
    modify fun s => { s with line := line }
    let text ← Expansion.text e word
    select e text.toList cases
  | .function _ name body => do
    modify fun s => { s with functions := (name, body) :: s.functions.filter (·.1 ≠ name) }
    Run.setStatus 0
  | .redirected line c redirects => redirected e line c redirects

/-- Runs commands one after the other. -/
def runAll (e : Engine) (programs : String → Option Program) : List Command → Run Unit
  | [] => return
  | c :: rest => do
    if (← get).options.contains 'n' then return
    lastIf rest.isEmpty (runCommand e programs c)
    runTraps e stepLimit
    runAll e programs rest

/-- How deep commands and words may be run within each other. -/
def depthLimit : Nat := 3000

/-- The engine that goes to some depth. -/
def toDepth (programs : String → Option Program) : Nat → Engine
  | 0 => ⟨fun _ => Run.fail "Too deep", return, fun _ _ => return []⟩
  | depth + 1 =>
    let e := toDepth programs depth
    ⟨runAll e programs, leaveShell e, Expansion.expandWord e⟩

end Engine

/-! ## Shells -/

/-- The variables that a shell has on its own. -/
def ownVariables (dir : Place) : List (String × Variable) :=
  [("IFS", ⟨some " \t\n", false, false⟩), ("OPTIND", ⟨some "1", false, false⟩),
   ("PATH", ⟨some Meaning.defaultPath, false, false⟩), ("PPID", ⟨some "4241", false, false⟩),
   ("PS1", ⟨some "# ", false, false⟩), ("PS2", ⟨some "> ", false, false⟩),
   ("PS4", ⟨some "+ ", false, false⟩),
   ("PWD", ⟨some (Text.Octets.ofText dir.text), true, false⟩)]

/-- The state of a shell at its start. -/
def startState (style : Style) (i : Invocation) : State :=
  let environment := i.environment.filter fun (name, _) =>
    isName name && ! ["IFS", "OPTIND", "PPID", "PWD"].contains name
  { style := style
    files := i.files
    log := #[]
    handles := #[.source i.stdin, .channel .output, .channel .error]
    streams := [(0, 0), (1, 1), (2, 2)]
    dir := i.dir
    path := Text.Octets.ofText i.dir.text
    bindings := environment.foldl (fun all (name, value) =>
      Run.withVariable name ⟨some (Text.Octets.ofText value), true, false⟩ all) (ownVariables i.dir)
    functions := []
    traps := []
    pending := []
    name := Text.Octets.ofText i.name
    args := []
    status := 0
    wordStatus := none
    line := 0
    running := none
    options := []
    tested := false
    final := false
    loops := 0
    hidden := []
    jobs := []
    broken := false
    optionOffset := none
    found := []
    aliases := []
    mask := 0o022 }

/-- Takes the options of a call of the shell off its arguments; the answer says whether a text is
to be run. -/
def callOptions : List String → Run (List String × Bool)
  | [] => return ([], false)
  | "-" :: rest => return (rest, false)
  | "--" :: rest => return (rest, false)
  | arg :: rest =>
    match arg.toList with
    | sign :: cs =>
      if sign = '-' || sign = '+' then do
        let isText := sign = '-' && cs.contains 'c'
        let letters := cs.filter fun c => c ≠ 'l' && !(sign = '-' && c = 'c')
        let took ← Builtins.putLetters (sign = '-') rest.head? letters
        match took, rest with
        | true, _ :: rest => do
          let (left, more) ← callOptions rest
          return (left, isText || more)
        | _, rest => do
          let (left, more) ← callOptions rest
          return (left, isText || more)
      else return (arg :: rest, false)
    | [] => return (arg :: rest, false)

/-- Gives the script its name and arguments. -/
def nameScript : List String → Run Unit
  | [] => return
  | name :: args => modify fun s => { s with name := name, args := args }

/-- Runs a shell with its arguments. -/
def runShell (e : Engine) (args : List String) : Run Unit := do
  let (rest, isText) ← callOptions args
  let s ← get
  if isText then
    match rest with
    | [] => Run.fail "-c requires an argument"
    | text :: rest => do
      nameScript rest
      modify fun s => { s with final := true }
      Engine.runText e text
  else if rest = [] || s.options.contains 's' then
    let text := Run.leftIn s 0
    Run.consume 0 text.length
    modify fun s => { s with args := rest, options := s.options.filter (· ≠ 's') ++ ['s'] }
    Engine.runText e (Text.Octets.ofBytes text)
  else
    let path := rest.headD ""
    match s.files.readBytes s.dir (Text.Octets.toText path) with
    | .ok bytes => do
      nameScript rest
      Engine.runText e (Text.Octets.ofBytes bytes)
    | .error fault =>
      if path = "/dev/null" then return
      else
        Run.fail ("cannot open " ++ path ++ ": " ++
          match fault with
          | .notFound | .notADirectory => "No such file"
          | fault => fault.reason)

/-- The shell, which runs the text behind `-c`, a file or its input. -/
def shell (style : Style) (programs : String → Option Program) : Program := fun i =>
  let e := Engine.toDepth programs Engine.depthLimit
  let whole : Run Unit := do
    try runShell e (i.args.map Text.Octets.ofText) catch
      | .killed n => throw (.killed n)
      | .replaced n => throw (.replaced n)
      | _ => pure ()
    e.depart
  let (result, s) := (whole.run (startState style i)).run
  let left :=
    match s.handles[0]? with
    | some (Handle.source left) => left.length
    | _ => i.stdin.length
  let ending : Ending :=
    match result with
    | .error (.killed n) => .killed n
    | .error (.replaced n) => .killed n
    | _ => .exited s.status.toUInt8
  ⟨ending, s.log.toList, some s.files, i.stdin.length - left⟩

/-- How many shells may run within each other. -/
def nestingLimit : Nat := 60

/-- The installed programs with shells, and programs that run others, to some depth. -/
def programsTo (table : List (String × Program)) : Nat → String → Option Program
  | 0, name => table.lookup name
  | depth + 1, name =>
    let inner := programsTo table depth
    match name with
    | "sh" | "dash" => some (shell .brief inner)
    | "bash" => some (shell .verbose inner)
    | "env" => some (Programs.env inner)
    | "which" => some (Programs.which inner)
    | name => table.lookup name

/-- The environment that commands start with. -/
def startEnvironment : List (String × String) :=
  [("HOME", "/root"), ("PATH", "/usr/local/sbin:/usr/local/bin:/usr/sbin:/usr/bin:/sbin:/bin")]

/-- The host with shells and the programs of a table. -/
def host (files : FileSystem) (cwd : Place) (table : List (String × Program)) : Host where
  files := files
  cwd := cwd
  environment := startEnvironment
  programs := programsTo table nestingLimit

end ImageBuild.Shell
