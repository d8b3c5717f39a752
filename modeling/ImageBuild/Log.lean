import ImageBuild.Text.Quoted

/-!
# Log records

What happens is recorded at three levels, as a message with named fields. The topic of a record says
which part of the program it is about; `Topic.text` is the name under which a filter knows it. A
`Span` stands for the time of a run, within which most records are made.
-/

namespace ImageBuild

/-- How important a record is. -/
inductive LogLevel
  | info
  | warn
  | error
  deriving DecidableEq, Repr

/-- What a record is about. -/
inductive Topic
  /-- The program as a whole. -/
  | program
  /-- Running plans and staging. -/
  | builder
  /-- Single steps. -/
  | steps
  /-- Output of steps. -/
  | output
  deriving DecidableEq, Repr

/-- The name of a topic. -/
def Topic.text : Topic → String
  | .program => "build_runner"
  | .builder => "build_runner::builder"
  | .steps => "build_runner::sequence"
  | .output => "build_runner::output"

/-- How a level is written. -/
def LogLevel.text : LogLevel → String
  | .info => " INFO"
  | .warn => " WARN"
  | .error => "ERROR"

/-- The value of a field of a span. -/
inductive SpanValue
  | text (shown : String)
  | count (n : Nat)
  deriving DecidableEq, Repr

/-- A named part of the work with its fields in order. -/
structure Span where
  name : String
  topic : Topic
  fields : List (String × SpanValue)
  deriving DecidableEq, Repr

/-- A record: its level, its topic, its message and its fields in order. -/
structure LogRecord where
  level : LogLevel
  topic : Topic
  message : String
  fields : List (String × String)
  deriving DecidableEq, Repr

namespace LogRecord

/-- A record of something expected. -/
def info (topic : Topic) (message : String) (fields : List (String × String)) : LogRecord :=
  ⟨.info, topic, message, fields⟩

/-- A record of something that went wrong without stopping the work. -/
def warn (topic : Topic) (message : String) (fields : List (String × String)) : LogRecord :=
  ⟨.warn, topic, message, fields⟩

/-- A record of what ended the work. -/
def error (topic : Topic) (message : String) (fields : List (String × String)) : LogRecord :=
  ⟨.error, topic, message, fields⟩

/-- The names that a filter finds in a record: those of its fields, and that of its message. -/
def names (r : LogRecord) : List String :=
  "message" :: r.fields.map (·.1)

/-! ## Written records -/

/-- The controls that a terminal takes for commands, with what is written instead. -/
def terminalControls : List (Char × String) :=
  [('\x1b', "\\x1b"), ('\x07', "\\x07"), ('\x08', "\\x08"), ('\x0c', "\\x0c"), ('\x7f', "\\x7f")]

/-- A character of a message as it is written: nothing that a terminal could take for a command. -/
def shownChar (c : Char) : List Char :=
  match terminalControls.lookup c with
  | some s => s.toList
  | none =>
    if 0x80 ≤ c.toNat && c.toNat ≤ 0x9f then
      '\\' :: 'u' :: '\x7b' :: (Text.hexDigits c.toNat ++ ['\x7d'])
    else [c]

/-- The message of a record as it is written. -/
def shownMessage (r : LogRecord) : String :=
  String.ofList (r.message.toList.flatMap shownChar)

/-- A record in one line. -/
def text (r : LogRecord) : String :=
  let fields := r.fields.map fun (name, value) => " " ++ name ++ "=" ++ value
  r.level.text ++ " " ++ r.topic.text ++ ": " ++ r.shownMessage ++ String.join fields

end LogRecord

end ImageBuild
