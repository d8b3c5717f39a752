/-!
# Shell scripts

A script is a list of commands. Their words are made of parts: text, parameters, the output of other
commands and numbers. Text that is quoted stands for itself; what comes from unquoted parts is cut
into words.
-/

namespace ImageBuild.Shell

/-- Where a file is opened for. -/
inductive Access
  | read
  | write
  /-- The file may be one that writing would spare. -/
  | replace
  | append
  | readWrite
  deriving DecidableEq, Repr

mutual

/-- A part of a word. -/
inductive Part
  | text (s : String) (quoted : Bool)
  | parameter (name : String) (action : Action) (quoted : Bool)
  /-- The output of commands. -/
  | output (commands : List Command) (quoted : Bool)
  /-- The value of an arithmetic expression. -/
  | number (expression : List Part) (quoted : Bool)

/-- What is done with a parameter. -/
inductive Action
  | value
  | length
  /-- Another word counts if the parameter is missing or, for `+`, if it is there. An empty one is
  missing if `orEmpty` says so. -/
  | instead (sign : Char) (orEmpty : Bool) (word : List Part)
  /-- The start or the end that a pattern matches is left out. -/
  | trim (atEnd longest : Bool) (pattern : List Part)
  /-- No action that is known. -/
  | unknown

/-- A redirection of a stream, by its number. -/
inductive Redirect
  | file (fd : Nat) (access : Access) (name : List Part)
  /-- The stream becomes the one of another number, or is closed. -/
  | copy (fd : Nat) (source : List Part)
  /-- The stream has a text to be read. -/
  | text (fd : Nat) (body : List Part)

/-- A command. The lines are those of the script where it begins. -/
inductive Command
  | simple (line : Nat) (assignments : List (String × List Part)) (words : List (List Part))
      (redirects : List Redirect)
  | pipeline (commands : List Command)
  | negated (command : Command)
  /-- Another command follows if the first one succeeds. -/
  | andThen (first second : Command)
  /-- Another command follows if the first one fails. -/
  | orElse (first second : Command)
  | list (commands : List Command)
  /-- A command that is not waited for. -/
  | background (command : Command)
  | subshell (line : Nat) (commands : List Command)
  | branch (condition yes no : List Command)
  /-- The body runs as long as the condition succeeds, or until it
  does if that is inverted. -/
  | loop (inverted : Bool) (condition body : List Command)
  | forEach (line : Nat) (name : String) (words : List (List Part)) (body : List Command)
  | select (line : Nat) (word : List Part) (cases : List (List (List Part) × List Command))
  | function (line : Nat) (name : String) (body : Command)
  | redirected (line : Nat) (command : Command) (redirects : List Redirect)

end

/-- A word of a script. -/
abbrev Word := List Part

/-- The text of a word of which no part is quoted or stands for something else. -/
def Word.plain? : Word → Option String
  | [.text s false] => some s
  | _ => none

/-- The text of a word without its quotes; parts that stand for something else have none. -/
def Word.bareText (w : Word) : String :=
  String.join (w.map fun
    | .text s _ => s
    | _ => "")

/-- Whether a word has quoted parts. -/
def Word.isQuoted (w : Word) : Bool :=
  w.any fun
    | .text _ quoted => quoted
    | .parameter _ _ quoted => quoted
    | .output _ quoted => quoted
    | .number _ quoted => quoted

/-- Whether a character begins a name. -/
def isNameStart (c : Char) : Bool := c.isAlpha || c == '_'

/-- Whether a character stands in a name. -/
def isNameChar (c : Char) : Bool := c.isAlphanum || c == '_'

/-- Whether a text is a name of a variable. -/
def isName (s : String) : Bool :=
  match s.toList with
  | c :: cs => isNameStart c && cs.all isNameChar
  | [] => false

/-- The assignment that a word writes: the name of a variable and a word. -/
def Word.assignment? : Word → Option (String × Word)
  | .text s false :: rest =>
    let cs := s.toList
    let name := cs.takeWhile isNameChar
    match cs.drop name.length with
    | '=' :: value =>
      if isName (String.ofList name) then
        some (String.ofList name,
          (if value = [] then [] else [Part.text (String.ofList value) false]) ++ rest)
      else none
    | _ => none
  | _ => none

end ImageBuild.Shell
