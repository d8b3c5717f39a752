import ImageBuild.Output.LineLogger
import ImageBuild.Proofs.Text.Decoding
import ImageBuild.Proofs.Text.Lines

/-!
# Output in chunks

A line logger that takes a chunk makes a record of every line that the chunk completes, and keeps
the unfinished line behind them (`accept_of_lined`). So what it holds after any number of chunks is
the unfinished line of all their bytes (`exists_acceptEach_eq`), and how the bytes were cut does not
show in what is logged.
-/

namespace ImageBuild.LineLogger

open Text (Lined exists_lined)
open Text.Utf8 (decodeLossy)

variable {l : LineLogger} {bytes line rest : List UInt8} {lines : List (List UInt8)}

/-! ## What a line shows -/

/-- A text in the color of a logger, if it has one. -/
def painted (l : LineLogger) (text : String) : String :=
  match l.color with
  | some color => color.paint text
  | none => text

/-- The record that shows a text behind the indentation. -/
def recordOf (l : LineLogger) (text : String) : LogRecord :=
  let level :=
    match l.stream with
    | .stdout => LogLevel.info
    | .stderr => LogLevel.warn
  ⟨level, .output, indent ++ l.painted text, []⟩

/-- The carriage returns at the end of a line are not shown, and everything before them is. -/
theorem record_eq (l : LineLogger) (line : List UInt8) :
    l.record line = l.recordOf (decodeLossy (line.rdropWhile (· == 13))) := by
  rw [← Text.Utf8.trimEndMatches_decodeLossy]
  rfl

/-! ## One chunk -/

theorem findIdx?_lineBreak (h : lineBreak ∉ line) : line.findIdx? (· == lineBreak) = none :=
  List.findIdx?_eq_none_iff.2 fun _ hb => beq_eq_false_iff_ne.2 fun heq => h (heq ▸ hb)

theorem takeLine?_of_not_mem (h : lineBreak ∉ l.begun) : l.takeLine? = none := by
  rw [takeLine?, findIdx?_lineBreak h, Option.map_none]

theorem takeLine?_of_line (h : lineBreak ∉ line) (hl : l.begun = line ++ lineBreak :: rest) :
    l.takeLine? = some (line, { l with begun := rest }) := by
  have hindex : l.begun.findIdx? (· == lineBreak) = some line.length := by
    rw [hl, List.findIdx?_append, findIdx?_lineBreak h]
    simp [List.findIdx?_cons]
  rw [takeLine?, hindex, Option.map_some, hl, List.take_left, List.drop_append]
  simp

/-- The loop logs the complete lines one after the other, and leaves the rest. -/
theorem drain_of_lined (h : Lined lineBreak l.begun lines rest) :
    l.drain = ({ l with begun := rest }, lines.map l.record) := by
  induction lines generalizing l with
  | nil =>
    have hbegun : l.begun = rest := h.eq
    rw [drain, takeLine?_of_not_mem (hbegun ▸ h.rest_clear), ← hbegun]
    rfl
  | cons line lines ih =>
    obtain ⟨hline, hlines⟩ := List.forall_mem_cons.1 h.line_clear
    have hbegun : l.begun = line ++ lineBreak :: (lines.flatMap (· ++ [lineBreak]) ++ rest) := by
      rw [h.eq]
      simp
    rw [drain, takeLine?_of_line hline hbegun]
    dsimp only
    rw [ih ⟨rfl, hlines, h.rest_clear⟩]
    rfl

theorem write_of_lined (h : Lined lineBreak (l.begun ++ bytes) lines rest) :
    l.write bytes = ({ l with begun := rest }, lines.map l.record) := by
  unfold write
  rw [h.split_eq]
  simp

/-- Bytes come to the same in one chunk and in two, as a line with its line break and in front of
it. -/
theorem write_append (l : LineLogger) (bytes more : List UInt8) : l.write (bytes ++ more) =
    (((l.write bytes).1.write more).1, (l.write bytes).2 ++ ((l.write bytes).1.write more).2) := by
  obtain ⟨lines, rest, h⟩ := exists_lined lineBreak (l.begun ++ bytes)
  obtain ⟨lines', rest', h'⟩ := exists_lined lineBreak (rest ++ more)
  have happend : Lined lineBreak (l.begun ++ (bytes ++ more)) (lines ++ lines') rest' := by
    rw [← List.append_assoc]
    exact h.append h'
  have hmore : ({ l with begun := rest } : LineLogger).write more =
      ({ l with begun := rest' }, lines'.map l.record) := write_of_lined h'
  rw [write_of_lined happend, write_of_lined h, hmore, List.map_append]

theorem accept_of_lined (h : Lined lineBreak (l.begun ++ bytes) lines rest) :
    l.accept bytes = ({ l with begun := rest }, lines.map l.record, bytes.length) := by
  unfold accept
  rw [drain_of_lined (l := { l with begun := l.begun ++ bytes }) h]
  rfl

/-- Taking lines out one by one comes to the same as cutting all that is held at its line breaks. -/
theorem accept_eq_write (l : LineLogger) (bytes : List UInt8) :
    l.accept bytes = ((l.write bytes).1, (l.write bytes).2, bytes.length) := by
  obtain ⟨lines, rest, h⟩ := exists_lined lineBreak (l.begun ++ bytes)
  rw [accept_of_lined h, write_of_lined h]

/-! ## Chunk after chunk -/

/-- Takes chunks one after the other: the logger behind them, all records, and how many bytes it
told that it took of each. -/
def acceptEach (l : LineLogger) : List (List UInt8) → LineLogger × List LogRecord × List Nat
  | [] => (l, [], [])
  | chunk :: chunks =>
    let (l, records, count) := l.accept chunk
    let (l, more, counts) := l.acceptEach chunks
    (l, records ++ more, count :: counts)

/-- After any chunks the complete lines of all bytes are logged, and the rest of them is held. -/
theorem exists_acceptEach_eq (h : lineBreak ∉ l.begun) (chunks : List (List UInt8)) :
    ∃ lines rest, Lined lineBreak (l.begun ++ chunks.flatten) lines rest ∧
      l.acceptEach chunks =
        ({ l with begun := rest }, lines.map l.record, chunks.map List.length) := by
  induction chunks generalizing l with
  | nil => exact ⟨[], l.begun, by simpa using Lined.of_not_mem h, rfl⟩
  | cons chunk chunks ih =>
    obtain ⟨lines, rest, hlines⟩ := exists_lined lineBreak (l.begun ++ chunk)
    obtain ⟨lines', rest', hlines', heq⟩ := ih (l := { l with begun := rest }) hlines.rest_clear
    refine ⟨lines ++ lines', rest', ?_, ?_⟩
    · rw [List.flatten_cons, ← List.append_assoc]
      exact hlines.append hlines'
    · rw [acceptEach, accept_of_lined hlines]
      dsimp only
      rw [heq, List.map_append]
      rfl

/-- All that is logged for chunks by a logger that is new before them and closed behind them. -/
def logged (stream : Stream) (color : Option Color) (chunks : List (List UInt8)) :
    List LogRecord :=
  let (l, records, _) := (new stream color).acceptEach chunks
  records ++ l.close

/-- The lines that a logger shows in the end: a rest that is not empty counts as one. -/
def shownLines (lines : List (List UInt8)) (rest : List UInt8) : List (List UInt8) :=
  lines ++ if rest = [] then [] else [rest]

/-- What chunks of bytes come to in a new logger of lines. -/
structure LogsLines (stream : Stream) (color : Option Color) (chunks : List (List UInt8)) :
    Prop where
  /-- There is one record of each line of all the bytes, in order. -/
  records : ∃ lines rest, Lined lineBreak chunks.flatten lines rest ∧
    logged stream color chunks = (shownLines lines rest).map fun line =>
      (new stream color).recordOf (decodeLossy (line.rdropWhile (· == 13)))
  /-- It does not matter how the bytes are cut. -/
  recut : ∀ chunks', chunks'.flatten = chunks.flatten →
    logged stream color chunks' = logged stream color chunks
  /-- All bytes of every chunk are taken. -/
  counts : ((new stream color).acceptEach chunks).2.2 = chunks.map List.length
  /-- Behind the chunks, what stands behind the last line break is held. -/
  held : ∃ lines,
    Lined lineBreak chunks.flatten lines ((new stream color).acceptEach chunks).1.begun

theorem logged_of_lined {stream : Stream} {color : Option Color} {chunks : List (List UInt8)}
    (h : Lined lineBreak chunks.flatten lines rest) :
    logged stream color chunks = (shownLines lines rest).map (new stream color).record := by
  obtain ⟨lines', rest', h', heq⟩ :=
    exists_acceptEach_eq (l := new stream color) List.not_mem_nil chunks
  obtain ⟨rfl, rfl⟩ := h.unique h'
  unfold logged shownLines
  rw [heq, List.map_append]
  dsimp only
  unfold close
  split_ifs <;> rfl

theorem logs_lines (stream : Stream) (color : Option Color) (chunks : List (List UInt8)) :
    LogsLines stream color chunks := by
  obtain ⟨lines, rest, h, heach⟩ :=
    exists_acceptEach_eq (l := new stream color) List.not_mem_nil chunks
  constructor
  case records =>
    refine ⟨lines, rest, h, ?_⟩
    rw [logged_of_lined h]
    exact List.map_congr_left fun line _ => record_eq _ line
  case recut =>
    intro chunks' hflatten
    rw [logged_of_lined h, logged_of_lined (hflatten ▸ h)]
  case counts =>
    rw [heach]
  case held =>
    rw [heach]
    exact ⟨lines, h⟩

/-- In a color a line is shown between control sequences, not as it is. -/
theorem logged_in_green : ¬ ∃ lines rest, Lined lineBreak [[97, 10]].flatten lines rest ∧
    logged .stdout (some 32) [[97, 10]] = (shownLines lines rest).map fun line =>
      (new .stdout none).recordOf (decodeLossy (line.rdropWhile (· == 13))) := by
  rintro ⟨lines, rest, h, heq⟩
  have hline : Lined lineBreak [[97, 10]].flatten [[97]] [] :=
    Lined.of_line (by decide : lineBreak ∉ [97])
  obtain ⟨rfl, rfl⟩ := hline.unique h
  rw [logged_of_lined hline] at heq
  revert heq
  decide

end ImageBuild.LineLogger
