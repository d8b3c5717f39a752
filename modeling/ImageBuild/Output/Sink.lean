import ImageBuild.Output.LineLogger

/-!
# Output sinks

The output of steps goes to sinks, line by line. A sink is a buffer, a logger of lines, or discards
everything. Output is informational only: a line that can not be written is recorded and otherwise
forgotten.
-/

namespace ImageBuild

/-- A buffer that takes a limited number of bytes. -/
structure Buffer where
  content : List UInt8
  /-- The greatest length of the content, if there is one. -/
  limit : Option Nat
  /-- Whether flushing fails. -/
  failsToFlush : Bool
  /-- How often it was flushed. -/
  flushes : Nat
  deriving DecidableEq, Repr

namespace Buffer

/-- An empty buffer. -/
def empty (limit : Option Nat) (failsToFlush : Bool) : Buffer := ⟨[], limit, failsToFlush, 0⟩

/-- Takes the bytes that fit, and whether all do. -/
def write (b : Buffer) (bytes : List UInt8) : Buffer × Bool :=
  match b.limit with
  | none => ({ b with content := b.content ++ bytes }, true)
  | some limit =>
    let room := limit - b.content.length
    ({ b with content := b.content ++ bytes.take room }, bytes.length ≤ room)

/-- Counts a flush, and whether it succeeds. -/
def flush (b : Buffer) : Buffer × Bool :=
  ({ b with flushes := b.flushes + 1 }, !b.failsToFlush)

end Buffer

/-- Where output goes. -/
inductive Sink
  | buffer (b : Buffer)
  | discard
  | logger (l : LineLogger)
  deriving DecidableEq, Repr

namespace Sink

/-- The record of a line that could not be written. -/
def writeFailure : LogRecord := .warn .output "failed to write to output sink" []

/-- Writes a line and a line break, and flushes. -/
def writeLine (sink : Sink) (line : String) : Sink × List LogRecord :=
  let bytes := Text.Utf8.encode line ++ [LineLogger.lineBreak]
  match sink with
  | .discard => (.discard, [])
  | .logger l =>
    let (l, records) := l.write bytes
    (.logger l, records)
  | .buffer b =>
    let (b, fits) := b.write bytes
    if !fits then (.buffer b, [writeFailure])
    else
      let (b, flushed) := b.flush
      (.buffer b, if flushed then [] else [writeFailure])

/-- The lines of a text that are not blank, without the white space at their ends. -/
def visibleLines (s : String) : List String :=
  ((Text.splitText '\n' s).map Text.trimEnd).filter (· ≠ "")

/-- Writes lines one after the other. -/
def writeEach (sink : Sink) : List String → Sink × List LogRecord
  | [] => (sink, [])
  | line :: rest =>
    let (sink, records) := sink.writeLine line
    let (sink, more) := sink.writeEach rest
    (sink, records ++ more)

/-- Writes the lines of a text that are not blank. -/
def writeLines (sink : Sink) (s : String) : Sink × List LogRecord :=
  sink.writeEach (visibleLines s)

end Sink

end ImageBuild
