import ImageBuild.Command.Shell.Arithmetic
import ImageBuild.Command.Shell.State
import ImageBuild.Text.Glob

/-!
# What words stand for

A word is expanded to pieces: characters, each with whether it is quoted and whether it may end a field.
The pieces are cut into fields, and fields with wildcards stand for the paths that they match. Commands
and words that stand within a word are left to an `Engine`.
-/

namespace ImageBuild.Shell

/-- A piece of an expanded word. -/
inductive Piece
  | char (c : Char) (quoted : Bool) (splits : Bool)
  /-- Something is there, though it may be empty. -/
  | present
  /-- The end of a field. -/
  | cut
  deriving DecidableEq, Repr

/-- A field: characters with whether they are quoted. -/
abbrev MarkedText := List (Char × Bool)

/-- What a word is expanded to. -/
inductive Splitting
  /-- One text. -/
  | whole
  /-- Fields, but the text of the word itself is not cut. -/
  | fields
  /-- Fields; the word stands within another one and its text is cut as well. -/
  | inner
  deriving DecidableEq, Repr

/-- The splitting for a word that stands within another one. -/
def Splitting.within : Splitting → Splitting
  | .whole => .whole
  | _ => .inner

/-- How to run commands and how to expand words that stand within something else. -/
structure Engine where
  run : List Command → Run Unit
  /-- Does what is left to do at the end of a shell. -/
  depart : Run Unit
  expand : Splitting → Word → Run (List Piece)

/-- The number of the process of a shell. -/
def processNumber : String := "4242"

/-- The number of the first process that is not waited for. -/
def firstJob : Nat := 4243

namespace Expansion

/-! ## Fields -/

/-- The characters that end fields. -/
def separators (s : State) : List Char :=
  match s.bindings.lookup "IFS" with
  | some ⟨some ifs, _, _⟩ => ifs.toList
  | _ => [' ', '\t', '\n']

/-- Whether a character is a blank that ends fields. -/
def isBlankSeparator (c : Char) : Bool := c == ' ' || c == '\t' || c == '\n'

/-- The state of cutting: the fields that are done, last one first, the one begun, and whether the last
one was ended by a blank. -/
structure Cutter where
  done : List MarkedText
  begun : Option MarkedText
  blank : Bool

/-- Ends the field begun. -/
def Cutter.finish (k : Cutter) (blank : Bool) : Cutter :=
  match k.begun with
  | some f => ⟨f.reverse :: k.done, none, blank⟩
  | none => k

/-- Takes a piece in. -/
def Cutter.step (ifs : List Char) (k : Cutter) : Piece → Cutter
  | .present => { k with begun := some (k.begun.getD []) }
  | .cut => { k.finish false with blank := false }
  | .char c quoted splits =>
    if splits && ifs.contains c then
      if isBlankSeparator c then k.finish true
      else
        match k.begun with
        | some _ => k.finish false
        | none => if k.blank then { k with blank := false } else { k with done := [] :: k.done }
    else { k with begun := some ((c, quoted) :: k.begun.getD []) }

/-- The fields of pieces. -/
def fieldsOf (ifs : List Char) (pieces : List Piece) : List MarkedText :=
  ((pieces.foldl (Cutter.step ifs) ⟨[], none, false⟩).finish false).done.reverse

/-- The characters of pieces, fields being separated by a blank. -/
def marked (pieces : List Piece) : MarkedText :=
  pieces.filterMap fun
    | .char c quoted _ => some (c, quoted)
    | .present => none
    | .cut => some (' ', true)

/-- The text of characters. -/
def textOf (f : MarkedText) : String := String.ofList (f.map (·.1))

/-- The pieces of a text. -/
def piecesOf (quoted splits : Bool) (s : String) : List Piece :=
  (if quoted then [.present] else []) ++ s.toList.map fun c => .char c quoted splits

/-! ## Paths -/

/-- The names in a directory, as texts of octets. -/
def entries (s : State) (dir : Place) : List String :=
  s.files.nodes.filterMap fun (place, _) =>
    if place ≠ [] && place.dropLast = dir then place.getLast?.map Text.Octets.ofText else none

/-- Whether a path leads to something. -/
def leads (s : State) (path : String) : Bool :=
  match s.files.locate s.dir (Text.Octets.toText path) with
  | .found _ => true
  | _ => false

/-- The paths that match further parts of a pattern behind a path. -/
def matching (s : State) (before : String) : List MarkedText → List String
  | [] => [before]
  | part :: rest =>
    let glob := Text.Glob.ofMarked part
    let after (path : String) : List String :=
      if rest = [] then [path] else matching s (path ++ "/") rest
    if glob.isPlain then
      let path := before ++ textOf part
      if rest = [] then if part = [] || leads s path then [path] else []
      else after path
    else
      match s.files.resolve s.dir (if before = "" then "." else Text.Octets.toText before) with
      | .error _ => []
      | .ok dir =>
        let hidden := part.head?.any (·.1 = '.')
        ((entries s dir).filter fun name =>
          (hidden || !name.startsWith ".") && glob.holds name.toList).flatMap fun name =>
            after (before ++ name)

/-- Cuts characters at slashes. -/
def pathParts : MarkedText → List MarkedText
  | [] => [[]]
  | (c, quoted) :: rest =>
    if c = '/' then [] :: pathParts rest
    else
      match pathParts rest with
      | part :: parts => ((c, quoted) :: part) :: parts
      | [] => [[(c, quoted)]]

/-- The paths that a field matches if it has wildcards and there are any, or else its text. -/
def paths (s : State) (f : MarkedText) : List String :=
  if s.options.contains 'f' || (Text.Glob.ofMarked f).isPlain then [textOf f]
  else
    match (matching s "" (pathParts f)).mergeSort (fun a b => decide (a ≤ b)) with
    | [] => [textOf f]
    | found => found

/-! ## Parameters -/

/-- The arguments as one text. -/
def joinedArgs (s : State) : String :=
  match separators s with
  | [] => String.join s.args
  | c :: _ => (String.ofList [c]).intercalate s.args

/-- The text of a parameter, if it has one. -/
def parameter? (s : State) (name : String) : Option String :=
  match name with
  | "#" => some (toString s.args.length)
  | "?" => some (toString s.status)
  | "$" => some processNumber
  | "-" => some (String.ofList s.options)
  | "!" => s.jobs.getLast?.map fun j => toString j.number
  | "0" => some s.name
  | "@" => if s.args.isEmpty then none else some (" ".intercalate s.args)
  | "*" => if s.args.isEmpty then none else some (joinedArgs s)
  | name =>
    match name.toNat? with
    | some n => if n = 0 then some s.name else s.args[n - 1]?
    | none => Run.valueOf? s name

/-- The words that a signal is reported with, if it is. -/
def signalReport? (signal : Nat) : Option String :=
  match signal with
  | 1 => some "Hangup"
  | 3 => some "Quit"
  | 4 => some "Illegal instruction"
  | 5 => some "Trace/breakpoint trap"
  | 6 => some "Aborted"
  | 7 => some "Bus error"
  | 8 => some "Floating point exception"
  | 9 => some "Killed"
  | 10 => some "User defined signal 1"
  | 11 => some "Segmentation fault"
  | 12 => some "User defined signal 2"
  | 14 => some "Alarm clock"
  | 15 => some "Terminated"
  | 16 => some "Stack fault"
  | 24 => some "CPU time limit exceeded"
  | 25 => some "File size limit exceeded"
  | 26 => some "Virtual timer expired"
  | 27 => some "Profiling timer expired"
  | 29 => some "I/O possible"
  | 30 => some "Power failure"
  | 31 => some "Bad system call"
  | _ => none

/-- Reports that a process has been ended by a signal. -/
def reportSignal (signal : Nat) : Run Unit := do
  if let some words := signalReport? signal then Run.write 2 (words ++ "\n")
  Run.setStatus (128 + signal)

/-- Runs something apart: only the files, what was written and the status stay. -/
def apart (e : Engine) (action : Run Unit) : Run Unit := fun s =>
  let whole : Run Unit := do
    try action catch
      | .killed n => throw (.killed n)
      | .replaced n => throw (.replaced n)
      | _ => pure ()
    e.depart
  let (result, after) := whole.run
    { s with traps := s.traps.filter (·.2 = ""), loops := 0, pending := [], jobs := [] } |>.run
  let later : State :=
    { s with
      files := after.files
      log := after.log
      handles := after.handles
      status := after.status }
  match result with
  | .error (.killed n) => (.error (.killed n), later)
  | .error (.replaced n) => (reportSignal n).run later |>.run
  | _ => (.ok (), later)

/-- The output of commands without the line breaks at its end. -/
def outputOf (e : Engine) (commands : List Command) : Run String := do
  let before ← get
  Run.attach 1 (.sink #[])
  apart e do
    modify fun s => { s with final := true, tested := false }
    e.run commands
  let s ← get
  let written :=
    match s.handles[before.handles.size]? with
    | some (.sink written) => written.toList
    | _ => []
  set { s with streams := before.streams, wordStatus := some s.status }
  let cs := (Text.Octets.ofBytes (written.filter (· ≠ 0))).toList
  return String.ofList (cs.reverse.dropWhile (· = '\n')).reverse

/-- The value of an arithmetic expression. -/
def numberOf (expression : String) : Run String := do
  let s ← get
  match Arithmetic.run (fun name => (parameter? s name).getD "") expression.toList with
  | .error (.number text) => Run.fail ("Illegal number: " ++ text)
  | .error (.expression reason) =>
    Run.fail ("arithmetic expression: " ++ reason ++ ": \"" ++ expression ++ "\"")
  | .ok (n, set) =>
    set.reverse.forM fun (name, value) => Run.setVariable name (toString value)
    return toString n

/-- The separator of the arguments while they are one text. -/
def argumentEnd : Char := '\x00'

/-- Takes the shortest or the longest start that a glob matches away. Only what stands before the first
separator is looked at. -/
def trimStart (glob : Text.Glob) (longest : Bool) (cs : List Char) : List Char :=
  let lengths := List.range (cs.length + 1)
  let lengths := if longest then lengths.reverse else lengths
  match lengths.find? fun n => glob.holds ((cs.take n).takeWhile (· ≠ argumentEnd)) with
  | some n => cs.drop n
  | none => cs

/-- Takes the shortest or the longest end that a glob matches away. An end goes to the next separator
only, but all that follows goes away with it. -/
def trimEnd (glob : Text.Glob) (longest : Bool) (cs : List Char) : List Char :=
  let lengths := List.range (cs.length + 1)
  let lengths := if longest then lengths else lengths.reverse
  match lengths.find? fun n => glob.holds ((cs.drop n).takeWhile (· ≠ argumentEnd)) with
  | some n => cs.take n
  | none => cs

/-- Whether a parameter stands for fields of their own. -/
def isMany (name : String) (splitting : Splitting) (quoted : Bool) : Bool :=
  splitting ≠ .whole && (name = "@" || (name = "*" && !quoted))

/-- The text of a parameter as it is: the arguments have separators if they become fields. -/
def valueText (s : State) (name : String) (splitting : Splitting) (quoted : Bool) : String :=
  if isMany name splitting quoted then (String.ofList [argumentEnd]).intercalate s.args
  else if name = "@" || name = "*" then joinedArgs s
  else (parameter? s name).getD ""

/-- The pieces of the text of a parameter. -/
def valuePieces (s : State) (name : String) (splitting : Splitting) (quoted : Bool) (text : String) : List Piece :=
  if isMany name splitting quoted then
    if s.args.isEmpty then []
    else
      (((Text.split argumentEnd text.toList).map fun cs =>
        piecesOf quoted (!quoted) (String.ofList cs)).intersperse [.cut]).flatten
  else piecesOf quoted (!quoted) text

/-- The message about a parameter that is missing. -/
def missingMessage (e : Engine) (orEmpty : Bool) (word : Word) : Run String := do
  let text ← if word.isEmpty then pure "" else textOf <$> marked <$> e.expand .whole word
  return if word.isEmpty then "parameter not set" ++ if orEmpty then " or null" else "" else text

/-- The pieces of a parameter after an action. -/
def expandParameter (e : Engine) (splitting : Splitting) (name : String) (action : Action)
    (quoted : Bool) : Run (List Piece) := do
  let s ← get
  let text := valueText s name splitting quoted
  let value := parameter? s name
  let isList := name = "@" || name = "*"
  let strict : Run Unit := do
    if value.isNone && s.options.contains 'u' && !isList then
      Run.fail (name ++ ": " ++ (← Run.styled "parameter not set" "unbound variable"))
    else return
  match action with
  | .unknown => Run.fail "Bad substitution"
  | .value => do
    strict
    return valuePieces s name splitting quoted text
  | .length => do
    strict
    return piecesOf quoted (!quoted) (toString (value.getD "").length)
  | .trim atEnd longest pattern => do
    strict
    let pieces ← if value.isNone then pure [] else e.expand .whole pattern
    let glob := Text.Glob.ofMarked (marked pieces)
    let rest := if atEnd then trimEnd glob longest text.toList else trimStart glob longest text.toList
    return valuePieces s name splitting quoted (String.ofList rest)
  | .instead sign orEmpty word =>
    let isThere :=
      match value with
      | none => false
      | some text => !(orEmpty && text = "")
    if sign = '+' then
      if isThere then e.expand splitting.within word
      else return if quoted then [.present] else []
    else if isThere then return valuePieces s name splitting quoted text
    else if sign = '-' then
      let pieces ← e.expand splitting.within word
      return (if quoted then [.present] else []) ++ pieces
    else if sign = '=' then
      if !isName name then Run.fail (name ++ ": bad variable name")
      else
        let text := textOf (marked (← e.expand .whole word))
        Run.setVariable name text
        return piecesOf quoted (!quoted) text
    else
      let message ← missingMessage e orEmpty word
      Run.fail (name ++ ": " ++ message)

/-! ## Words -/

/-- The pieces of a part of a word. -/
def expandPart (e : Engine) (splitting : Splitting) : Part → Run (List Piece)
  | .text s quoted =>
    return (if quoted then [.present] else []) ++
      s.toList.map fun c => .char c quoted (splitting = .inner && !quoted)
  | .parameter name action quoted => expandParameter e splitting name action quoted
  | .output commands quoted => do
    let text ← outputOf e commands
    return piecesOf quoted (!quoted) text
  | .number expression quoted => do
    let text := textOf (marked (← e.expand .whole expression))
    let n ← numberOf text
    return piecesOf quoted (!quoted) n

/-- The pieces of a word. -/
def expandWord (e : Engine) (splitting : Splitting) (w : Word) : Run (List Piece) := do
  let all ← w.mapM (expandPart e splitting)
  return all.flatten

/-- The parts of a text with the home directory in the place of a tilde at its start; in an assignment
also behind colons. `last` says whether the word ends with the text. -/
def homeParts (home : String) (assigned last : Bool) (text : String) : List Part :=
  let cuts := if assigned then Text.split ':' text.toList else [text.toList]
  let part (n : Nat) (cs : List Char) : List Part :=
    let ends := n + 1 < cuts.length || last
    let front : List Part := if n = 0 then [] else [.text ":" false]
    front ++
      match cs with
      | '~' :: rest =>
        if rest.head? = some '/' || (rest = [] && ends) then
          [.text home true, .text (String.ofList rest) false]
        else [.text (String.ofList cs) false]
      | cs => [.text (String.ofList cs) false]
  ((List.range cuts.length).zip cuts).flatMap fun (n, cs) => part n cs

/-- A word with the home directory in the place of a tilde at its start or, in an assignment, behind
colons in its first part. -/
def withHome (s : State) (assigned : Bool) (w : Word) : Word :=
  match w, Run.valueOf? s "HOME" with
  | .text text false :: rest, some home =>
    if text.toList.contains '~' then homeParts home assigned rest.isEmpty text ++ rest else w
  | w, _ => w

/-- The text of a word that is not cut into fields. -/
def text (e : Engine) (w : Word) : Run String := do
  let pieces ← expandWord e .whole (withHome (← get) false w)
  return textOf (marked pieces)

/-- The text that a word of an assignment is. -/
def assignedText (e : Engine) (w : Word) : Run String := do
  let pieces ← expandWord e .whole (withHome (← get) true w)
  return textOf (marked pieces)

/-- The pattern that a word is. -/
def glob (e : Engine) (w : Word) : Run Text.Glob := do
  let pieces ← expandWord e .whole (withHome (← get) false w)
  return Text.Glob.ofMarked (marked pieces)

/-- The fields that a word stands for. -/
def fields (e : Engine) (w : Word) : Run (List String) := do
  let pieces ← expandWord e .fields (withHome (← get) false w)
  let s ← get
  return (fieldsOf (separators s) pieces).flatMap (paths s)

end Expansion

end ImageBuild.Shell
