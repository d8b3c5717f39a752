import ImageBuild.Log
import ImageBuild.Text.Blank
import ImageBuild.Text.Split
import ImageBuild.Text.Utf8

/-!
# Logging lines

A line logger takes bytes in chunks and makes one record of every line that is complete. What
follows the last line break is kept until more arrives or the logger is closed. Lines are read
forgivingly, lose the carriage returns at their end, and are set off by blanks.
-/

namespace ImageBuild

/-- Where output comes from. -/
inductive Stream
  | stdout
  | stderr
  deriving DecidableEq, Repr

/-- A foreground color, by its number in a control sequence. -/
abbrev Color := Nat

/-- The names of the colors with their numbers. -/
def Color.names : List (String × Color) :=
  [("Black", 30), ("Red", 31), ("Green", 32), ("Yellow", 33), ("Blue", 34), ("Magenta", 35),
   ("Cyan", 36), ("White", 37), ("Default", 39), ("BrightBlack", 90), ("BrightRed", 91),
   ("BrightGreen", 92), ("BrightYellow", 93), ("BrightBlue", 94), ("BrightMagenta", 95),
   ("BrightCyan", 96), ("BrightWhite", 97)]

/-- A text between the control sequences that set a color and reset it. -/
def Color.paint (color : Color) (s : String) : String :=
  s!"\x1b[{color}m" ++ s ++ "\x1b[39m"

/-- A logger of lines, with the bytes of the line begun. -/
structure LineLogger where
  stream : Stream
  color : Option Color
  begun : List UInt8
  deriving DecidableEq, Repr

namespace LineLogger

/-- What stands in front of every line. -/
def indent : String := "         "

/-- The byte that ends a line. -/
def lineBreak : UInt8 := 10

/-- A logger without a line begun. -/
def new (stream : Stream) (color : Option Color) : LineLogger := ⟨stream, color, []⟩

/-- A line as it is logged. -/
def format (color : Option Color) (line : List UInt8) : String :=
  let text := Text.trimEndMatches (· == '\r') (Text.Utf8.decodeLossy line)
  indent ++
    match color with
    | some color => color.paint text
    | none => text

/-- The record of a line. -/
def record (l : LineLogger) (line : List UInt8) : LogRecord :=
  let level :=
    match l.stream with
    | .stdout => LogLevel.info
    | .stderr => LogLevel.warn
  ⟨level, .output, format l.color line, []⟩

/-- Takes bytes and logs the lines that they complete. -/
def write (l : LineLogger) (bytes : List UInt8) : LineLogger × List LogRecord :=
  let parts := Text.split lineBreak (l.begun ++ bytes)
  ({ l with begun := parts.getLast?.getD [] }, parts.dropLast.map l.record)

/-- Takes the first complete line out of what was begun, without its line break. -/
def takeLine? (l : LineLogger) : Option (List UInt8 × LineLogger) :=
  (l.begun.findIdx? (· == lineBreak)).map fun i =>
    (l.begun.take i, { l with begun := l.begun.drop (i + 1) })

theorem length_begun_of_takeLine? {l l' : LineLogger} {line : List UInt8}
    (h : l.takeLine? = some (line, l')) : l'.begun.length < l.begun.length := by
  obtain ⟨i, hi, heq⟩ := Option.map_eq_some_iff.1 h
  obtain ⟨-, rfl⟩ := Prod.mk.inj heq
  have hlt := (List.findIdx?_eq_some_iff_getElem.1 hi).1
  simp only [List.length_drop]
  omega

/-- Logs complete lines as long as there is one. -/
def drain (l : LineLogger) : LineLogger × List LogRecord :=
  match _ : l.takeLine? with
  | none => (l, [])
  | some (line, l') =>
    let (last, records) := l'.drain
    (last, l.record line :: records)
termination_by l.begun.length
decreasing_by exact length_begun_of_takeLine? ‹_›

/-- Takes bytes, logs the lines that they complete one after the other, and tells how many bytes it
took. What is logged, and kept, is what `write` says. -/
def accept (l : LineLogger) (bytes : List UInt8) : LineLogger × List LogRecord × Nat :=
  let (l, records) := { l with begun := l.begun ++ bytes }.drain
  (l, records, bytes.length)

/-- Logs the line begun, if there is one. -/
def close (l : LineLogger) : List LogRecord :=
  if l.begun = [] then [] else [l.record l.begun]

end LineLogger

end ImageBuild
