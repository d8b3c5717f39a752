import ImageBuild.Log
import ImageBuild.Text.Automaton

/-!
# Directives of filters

A directive sets a verbosity for some records. It is written as the name of a topic, a span with
fields between brackets, and a verbosity behind an equals sign, of which parts may be left out.

White space around a directive does not count when its parts are told apart. Each part is then cut
out of the whole text at the place it has without that white space: in front of a directive, white
space moves every cut. A cut within a character is a fault of its own.
-/

namespace ImageBuild

/-- The number that digits write, perhaps behind a plus sign. -/
def natural? (cs : List Char) : Option Nat :=
  let digits :=
    match cs with
    | '+' :: digits => digits
    | digits => digits
  if digits ≠ [] ∧ digits.all Char.isDigit then (String.ofList digits).toNat? else none

/-! ## Verbosity -/

/-- How much is shown. -/
inductive Verbosity
  | off
  | error
  | warn
  | info
  | debug
  | trace
  deriving DecidableEq, Repr

namespace Verbosity

/-- The names of the verbosities. -/
def names : List (String × Verbosity) :=
  [("off", .off), ("error", .error), ("warn", .warn), ("info", .info), ("debug", .debug),
   ("trace", .trace)]

/-- The verbosity of a name or of its number among the names; letters of either case count. -/
def ofText? (s : String) : Option Verbosity :=
  match (natural? s.toList).bind fun n => names[n]? with
  | some (_, v) => some v
  | none => names.lookup s.toLower

/-- How many levels are shown. -/
def rank : Verbosity → Nat
  | .off => 0
  | .error => 1
  | .warn => 2
  | .info => 3
  | .debug => 4
  | .trace => 5

/-- The greater one of two verbosities. -/
def max (v w : Verbosity) : Verbosity :=
  if v.rank ≤ w.rank then w else v

/-- Whether records of a level are shown. -/
def allows (v : Verbosity) : LogLevel → Bool
  | .error => 1 ≤ v.rank
  | .warn => 2 ≤ v.rank
  | .info => 3 ≤ v.rank

end Verbosity

/-! ## Fields -/

/-- What a directive asks of the value of a field. -/
inductive ValueTest
  | count (n : Nat)
  | pattern (expression : Text.Expression)
  /-- A value of a kind that no field has: a truth value, a negative or a broken number. -/
  | impossible
  deriving DecidableEq, Repr

namespace ValueTest

/-- The numbers of a size that fields have. -/
def countLimit : Nat := 1 <<< 64

/-- What is left behind the digits at the front of a text, and whether there are any. -/
def behindDigits (cs : List Char) : Bool × List Char :=
  let digits := cs.takeWhile Char.isDigit
  (digits ≠ [], cs.drop digits.length)

/-- Whether a text is nothing or an exponent. -/
def isExponent : List Char → Bool
  | [] => true
  | e :: cs =>
    let digits :=
      match cs with
      | '+' :: cs => cs
      | '-' :: cs => cs
      | cs => cs
    (e == 'e' || e == 'E') && digits != [] && digits.all Char.isDigit

/-- Whether a text writes a decimal number, perhaps with a sign, or names one that is none. -/
def isDecimal (cs : List Char) : Bool :=
  let cs :=
    match cs with
    | '+' :: cs => cs
    | '-' :: cs => cs
    | cs => cs
  if ["inf", "infinity", "nan"].contains (String.ofList cs).toLower then true
  else
    let (whole, rest) := behindDigits cs
    match rest with
    | '.' :: rest =>
      let (broken, rest) := behindDigits rest
      (whole || broken) && isExponent rest
    | rest => whole && isExponent rest

/-- The test that a text writes. -/
def ofText? (s : String) : Option ValueTest :=
  if s = "true" ∨ s = "false" then some .impossible
  else
    match (natural? s.toList).filter (· < countLimit) with
    | some n => some (.count n)
    | none =>
      if isDecimal s.toList then some .impossible
      else (Text.Expression.ofText? s).map .pattern

/-- Whether a value passes a test. -/
def passes : ValueTest → SpanValue → Bool
  | .count n, .count m => n == m
  | .pattern expression, .text shown => expression.matchesToEnd shown
  | _, _ => false

end ValueTest

/-- A field that a directive asks for, and perhaps its value. -/
structure FieldTest where
  name : String
  value : Option ValueTest
  deriving DecidableEq, Repr

/-- The test of a field that a text writes; behind a second equals sign nothing counts. -/
def FieldTest.ofText? (s : String) : Option FieldTest :=
  let cs := s.toList
  let name := cs.takeWhile (· ≠ '=')
  match cs.drop name.length with
  | _ :: value =>
    (ValueTest.ofText? (String.ofList (value.takeWhile (· ≠ '=')))).map fun test =>
      ⟨String.ofList name, some test⟩
  | [] => if s = "" then none else some ⟨s, none⟩

/-! ## Directives -/

/-- A part of a filter. -/
structure Directive where
  /-- What the names of its topics begin with; none for all topics. -/
  topic : Option String
  /-- The name of its span, if it is meant for one. -/
  span : Option String
  fields : List FieldTest
  verbosity : Verbosity
  deriving DecidableEq, Repr

/-- Why a text writes no directive. -/
inductive DirectiveFault
  | unreadable
  /-- A part would begin or end within a character. -/
  | severed
  deriving DecidableEq, Repr

namespace Directive

/-- What is read of a directive: the parts found, and the part begun with the place of its start. -/
inductive Progress
  | start
  | topic
  | span (start : Nat)
  | field (start : Nat)
  /-- Behind the fields. -/
  | fields
  /-- Behind the brackets. -/
  | closed
  | verbosity (start : Nat)

/-- The directive of everything. -/
def everything : Directive := ⟨none, none, [], .trace⟩

/-- Whether a character may begin a directive. -/
def canBegin (c : Char) : Bool :=
  c == '-' || c == ':' || c == '_' || Text.isAlphanumeric c

/-- What is left of a text behind a number of bytes, if no character lies across that place. -/
def dropBytes : Nat → List Char → Option (List Char)
  | 0, cs => some cs
  | _ + 1, [] => none
  | n + 1, c :: cs => if c.utf8Size ≤ n + 1 then dropBytes (n + 1 - c.utf8Size) cs else none

/-- The part of a text between two places, which are counted in bytes. -/
def cut (whole : List Char) (first last : Nat) : Except DirectiveFault String :=
  match dropBytes first whole, dropBytes last whole with
  | some part, some rest => .ok (String.ofList (part.take (part.length - rest.length)))
  | _, _ => .error .severed

/-- The part of a text behind a place. -/
def cutFrom (whole : List Char) (first : Nat) : Except DirectiveFault String :=
  match dropBytes first whole with
  | some part => .ok (String.ofList part)
  | none => .error .severed

/-- Adds the field that a part of a text writes. -/
def addField (d : Directive) (part : String) : Except DirectiveFault Directive :=
  match FieldTest.ofText? part with
  | some test => .ok { d with fields := d.fields ++ [test] }
  | none => .error .unreadable

/-- Takes the character at a place of a directive. -/
def advance (whole : List Char) (d : Directive) (progress : Progress) (place : Nat) (c : Char) :
    Except DirectiveFault (Directive × Progress) :=
  match progress with
  | .start =>
    if c = '[' then .ok (d, .span (place + 1))
    else if canBegin c then .ok (d, .topic)
    else .error .unreadable
  | .topic =>
    if c = '=' || c = '[' then
      match cut whole 0 place with
      | .error fault => .error fault
      | .ok part =>
        .ok ({ d with topic := some part },
          if c = '=' then .verbosity (place + 1) else .span (place + 1))
    else .ok (d, .topic)
  | .span start =>
    if c = ']' || c = '\x7b' then
      match cut whole start place with
      | .error fault => .error fault
      | .ok part =>
        if c = ']' then .ok ({ d with span := some part }, .closed)
        else .ok ({ d with span := if part = "" then none else some part }, .field (place + 1))
    else .ok (d, progress)
  | .field start =>
    if c = '\x7d' then
      match (cut whole start place).bind d.addField with
      | .error fault => .error fault
      | .ok d => .ok (d, .fields)
    else .ok (d, progress)
  | .fields => if c = ']' then .ok (d, .closed) else .error .unreadable
  | .closed => if c = '=' then .ok (d, .verbosity (place + 1)) else .error .unreadable
  | .verbosity _ => .ok (d, progress)

/-- The directive of a text without an equals sign and without brackets: a verbosity for all topics
or a topic. -/
def ofName (s : String) : Directive :=
  match Verbosity.ofText? s with
  | some v => { everything with verbosity := v }
  | none => { everything with topic := some s }

/-- Ends a directive behind its last character. -/
def finish (whole : List Char) (d : Directive) : Progress → Except DirectiveFault Directive
  | .topic => .ok (ofName (String.ofList whole))
  | .closed => .ok d
  | .verbosity start =>
    match cutFrom whole start with
    | .error fault => .error fault
    | .ok "" => .ok d
    | .ok part =>
      match Verbosity.ofText? part with
      | some v => .ok { d with verbosity := v }
      | none => .error .unreadable
  | _ => .error .unreadable

/-- Takes the characters of a directive from a place on. -/
def readFrom (whole : List Char) : Directive → Progress → Nat → List Char →
    Except DirectiveFault Directive
  | d, progress, _, [] => finish whole d progress
  | d, progress, place, c :: cs =>
    match advance whole d progress place c with
    | .error fault => .error fault
    | .ok (d, progress) => readFrom whole d progress (place + c.utf8Size) cs

/-- The directive that a text writes. -/
def ofText (s : String) : Except DirectiveFault Directive :=
  let trimmed := Text.dropEndWhile Text.isBlank (s.toList.dropWhile Text.isBlank)
  readFrom s.toList everything .start 0 trimmed

/-- Whether a directive can be decided about a record alone. -/
def isStatic (d : Directive) : Bool :=
  d.span.isNone && d.fields.all (·.value.isNone)

/-- Whether a directive is about spans. -/
def isDynamic (d : Directive) : Bool :=
  d.span.isSome || d.fields ≠ []

/-- Whether a topic is among those of a directive. -/
def concernsTopic (d : Directive) (topic : Topic) : Bool :=
  match d.topic with
  | none => true
  | some start => start.toList.isPrefixOf topic.text.toList

/-- Whether a directive is about a record, which has all of its fields then. -/
def concerns (d : Directive) (r : LogRecord) : Bool :=
  d.concernsTopic r.topic && d.fields.all fun field => r.names.contains field.name

/-- Whether a directive is about a span, with its values. -/
def covers (d : Directive) (span : Span) : Bool :=
  d.concernsTopic span.topic && d.span.all (· == span.name) &&
    d.fields.all fun field =>
      match span.fields.lookup field.name with
      | none => false
      | some value => field.value.all (·.passes value)

end Directive

end ImageBuild
