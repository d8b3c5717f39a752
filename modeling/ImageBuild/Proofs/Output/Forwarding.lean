import ImageBuild.Output.Sink
import ImageBuild.Proofs.Output.Chunks

/-!
# Forwarded output

Of a text a sink gets the lines that are not blank, without the white space at their ends
(`shownAs_visibleLines`). Such lines hold no line break and end in a character that is shown, so
that they come through both ways of cutting lines as they are: written down and read again they give
the same lines (`visibleLines_join`), and a logger makes one record of each (`writeLine_logger`).
-/

namespace ImageBuild

open Text (Lined exists_lined isBlank trimEnd)
open Text.Utf8 (encode decodeLossy)

/-! ## Room in buffers -/

namespace Buffer

variable {b b' : Buffer} {bytes : List UInt8}

/-- The first of some bytes, as many as a buffer has room for. -/
def fitting (b : Buffer) (bytes : List UInt8) : List UInt8 :=
  match b.limit with
  | none => bytes
  | some limit => bytes.take (limit - b.content.length)

theorem fitting_nil (b : Buffer) : b.fitting [] = [] := by
  unfold fitting
  cases b.limit with
  | none => rfl
  | some limit => exact List.take_nil

theorem content_write (b : Buffer) (bytes : List UInt8) :
    (b.write bytes).1.content = b.content ++ b.fitting bytes := by
  unfold write fitting
  cases b.limit <;> rfl

theorem limit_write (b : Buffer) (bytes : List UInt8) : (b.write bytes).1.limit = b.limit := by
  unfold write
  split
  · rfl
  · rfl

/-- What fits behind bytes of which only the first ones fitted. -/
theorem fitting_append (hlimit : b'.limit = b.limit)
    (hcontent : b'.content = b.content ++ b.fitting bytes) (more : List UInt8) :
    b.fitting (bytes ++ more) = b.fitting bytes ++ b'.fitting more := by
  unfold fitting at hcontent ⊢
  rw [hlimit]
  cases hb : b.limit with
  | none => rfl
  | some limit =>
    rw [hb] at hcontent
    dsimp only at hcontent ⊢
    have hroom : limit - b'.content.length = limit - b.content.length - bytes.length := by
      rw [hcontent, List.length_append, List.length_take]
      omega
    rw [List.take_append, hroom]

end Buffer

/-! ## Lines that are shown -/

namespace Text

variable {s text : String} {line rest : List Char} {lines : List (List Char)}

/-- A text ends in a character that is no white space. -/
def EndsVisibly (text : String) : Prop :=
  ∃ front last, text.toList = front ++ [last] ∧ isBlank last = false

/-- A text is a line without the white space at its end. -/
structure ShownAs (line : List Char) (text : String) : Prop where
  exists_blanks : ∃ blanks, line = text.toList ++ blanks ∧ ∀ c ∈ blanks, isBlank c = true
  endsVisibly : EndsVisibly text

theorem EndsVisibly.ne_empty (h : EndsVisibly text) : text ≠ "" := by
  obtain ⟨front, last, htext, -⟩ := h
  rintro rfl
  simp at htext

theorem EndsVisibly.append (h : EndsVisibly text) (s : String) : EndsVisibly (s ++ text) := by
  obtain ⟨front, last, htext, hlast⟩ := h
  exact ⟨s.toList ++ front, last, by rw [String.toList_append, htext, List.append_assoc], hlast⟩

/-- Nothing is trimmed off a text that ends visibly but characters that are shown. -/
theorem EndsVisibly.trimEndMatches_eq (h : EndsVisibly text) {p : Char → Bool}
    (hp : ∀ c, p c = true → isBlank c = true) : trimEndMatches p text = text := by
  obtain ⟨front, last, htext, hlast⟩ := h
  have hkept : ¬ p last = true := fun hdropped => Bool.false_ne_true (hlast ▸ hp last hdropped)
  have hdrop : dropEndWhile p text.toList = text.toList := by
    rw [htext]
    exact List.rdropWhile_concat_neg p front last hkept
  rw [trimEndMatches, hdrop, String.ofList_toList]

theorem EndsVisibly.trimEnd_eq (h : EndsVisibly text) : trimEnd text = text :=
  h.trimEndMatches_eq fun _ => id

theorem trimEnd_ofList_eq_empty_iff : trimEnd (String.ofList line) = "" ↔ line.all isBlank := by
  rw [trimEnd, String.toList_ofList, ← String.toList_eq_nil_iff, String.toList_ofList]
  exact List.rdropWhile_eq_nil_iff.trans List.all_eq_true.symm

theorem shownAs_trimEnd (h : line.all isBlank = false) :
    ShownAs line (trimEnd (String.ofList line)) := by
  have htext : (trimEnd (String.ofList line)).toList = line.rdropWhile isBlank := by
    rw [trimEnd, String.toList_ofList, String.toList_ofList]
    rfl
  have hne : line.rdropWhile isBlank ≠ [] := by
    rw [Ne, List.rdropWhile_eq_nil_iff, ← List.all_eq_true, h]
    exact Bool.false_ne_true
  constructor
  · exact ⟨line.rtakeWhile isBlank, by rw [htext, List.rdropWhile_append_rtakeWhile],
      fun c hc => List.mem_rtakeWhile_imp hc⟩
  · refine ⟨_, _, htext.trans (List.dropLast_append_getLast hne).symm, ?_⟩
    simpa using List.rdropWhile_last_not isBlank line hne

end Text

namespace Sink

open Text (EndsVisibly ShownAs)

variable {s line : String} {lines : List String}

theorem visibleLines_of_lined {cut : List (List Char)} {rest : List Char}
    (h : Lined '\n' s.toList cut rest) : visibleLines s =
      ((cut ++ [rest]).map fun line => trimEnd (String.ofList line)).filter (· ≠ "") := by
  rw [visibleLines, Text.splitText, h.split_eq, List.map_map]
  rfl

/-- The lines that are not blank are shown in order. -/
theorem shownAs_visibleLines {cut : List (List Char)} {rest : List Char}
    (h : Lined '\n' s.toList cut rest) : List.Forall₂ ShownAs
      ((cut ++ [rest]).filter fun line => !line.all isBlank) (visibleLines s) := by
  rw [visibleLines_of_lined h]
  induction cut ++ [rest] with
  | nil => exact .nil
  | cons line lines ih =>
    cases hblank : line.all isBlank with
    | true =>
      rw [List.filter_cons_of_neg (by simp [hblank]), List.map_cons, List.filter_cons_of_neg]
      · exact ih
      · simp [Text.trimEnd_ofList_eq_empty_iff, hblank]
    | false =>
      rw [List.filter_cons_of_pos (by simp [hblank]), List.map_cons, List.filter_cons_of_pos]
      · exact .cons (Text.shownAs_trimEnd hblank) ih
      · simp [Text.trimEnd_ofList_eq_empty_iff, hblank]

/-- A line as it is written to a sink. -/
structure IsLine (line : String) : Prop where
  endsVisibly : EndsVisibly line
  not_mem : '\n' ∉ line.toList

theorem isLine_of_mem (h : line ∈ visibleLines s) : IsLine line := by
  obtain ⟨cut, rest, hcut⟩ := exists_lined '\n' s.toList
  rw [visibleLines_of_lined hcut] at h
  obtain ⟨hmem, hne⟩ := List.mem_filter.1 h
  obtain ⟨cs, hcs, rfl⟩ := List.mem_map.1 hmem
  have hclear : '\n' ∉ cs := by
    rcases List.mem_append.1 hcs with hcs | hcs
    · exact hcut.line_clear cs hcs
    · exact List.mem_singleton.1 hcs ▸ hcut.rest_clear
  have hshown : ShownAs cs (trimEnd (String.ofList cs)) := by
    refine Text.shownAs_trimEnd (Bool.eq_false_iff.2 fun hblank => ?_)
    simp [Text.trimEnd_ofList_eq_empty_iff.2 hblank] at hne
  obtain ⟨blanks, heq, -⟩ := hshown.exists_blanks
  exact ⟨hshown.endsVisibly, fun hmem => hclear (heq ▸ List.mem_append_left blanks hmem)⟩

/-- Lines written down are read again as they are. -/
theorem visibleLines_join (h : ∀ line ∈ lines, IsLine line) :
    visibleLines (String.join (lines.map (· ++ "\n"))) = lines := by
  have hlined : Lined '\n' (String.join (lines.map (· ++ "\n"))).toList
      (lines.map String.toList) [] := by
    refine ⟨?_, ?_, List.not_mem_nil⟩
    · simp [String.toList_join, List.flatMap_map]
    · rw [List.forall_mem_map]
      exact fun line hline => (h line hline).not_mem
  rw [visibleLines_of_lined hlined, List.map_append, List.map_map, List.filter_append]
  have hmap : lines.map ((fun line => trimEnd (String.ofList line)) ∘ String.toList) = lines := by
    refine (List.map_congr_left fun line hline => ?_).trans (List.map_id lines)
    rw [Function.comp_apply, String.ofList_toList, (h line hline).endsVisibly.trimEnd_eq, id]
  have hfilter : lines.filter (· ≠ "") = lines :=
    List.filter_eq_self.2 fun line hline => by simpa using (h line hline).endsVisibly.ne_empty
  rw [hmap, hfilter]
  exact List.append_nil lines

theorem visibleLines_append (a b : String) :
    visibleLines (a ++ "\n" ++ b) = visibleLines a ++ visibleLines b := by
  have hparts : Text.splitText '\n' (a ++ "\n" ++ b) =
      Text.splitText '\n' a ++ Text.splitText '\n' b := Text.splitText_append '\n' a b
  unfold visibleLines
  rw [hparts, List.map_append, List.filter_append]

/-! ## Bytes of lines -/

/-- The bytes of lines, with a line break behind each. -/
def lineBytes (lines : List String) : List UInt8 :=
  lines.flatMap fun line => encode line ++ [LineLogger.lineBreak]

theorem lineBytes_cons (line : String) (lines : List String) : lineBytes (line :: lines) =
    encode line ++ [LineLogger.lineBreak] ++ lineBytes lines :=
  List.flatMap_cons

theorem encode_join (lines : List String) :
    encode (String.join (lines.map (· ++ "\n"))) = lineBytes lines := by
  rw [Text.Utf8.encode_eq_flatMap, String.toList_join, List.flatMap_map, List.flatMap_assoc]
  refine congrArg (List.flatMap · lines) (funext fun line => ?_)
  rw [String.toList_append, List.flatMap_append, ← Text.Utf8.encode_eq_flatMap]
  rfl

theorem lineBreak_not_mem_encode (h : '\n' ∉ line.toList) :
    LineLogger.lineBreak ∉ encode line := by
  rw [Text.Utf8.encode_eq_flatMap, List.mem_flatMap]
  rintro ⟨c, hc, hbyte⟩
  exact h (Text.Utf8.eq_ofNat_of_mem_encodeChar hbyte (by decide) ▸ hc)

/-- What is written of a text is read again as the same lines. -/
theorem exists_decode?_lineBytes (s : String) : ∃ t,
    Text.Utf8.decode? (lineBytes (visibleLines s)) = .ok t ∧ visibleLines t = visibleLines s := by
  refine ⟨String.join ((visibleLines s).map (· ++ "\n")), ?_,
    visibleLines_join fun _ => isLine_of_mem⟩
  rw [← encode_join, Text.Utf8.decode?_encode]

/-! ## Sinks -/

theorem writeEach_cons (sink : Sink) (line : String) (lines : List String) :
    sink.writeEach (line :: lines) = (((sink.writeLine line).1.writeEach lines).1,
      (sink.writeLine line).2 ++ ((sink.writeLine line).1.writeEach lines).2) := rfl

/-- Lines are written in two parts as they are at once. -/
theorem writeEach_append_eq (sink : Sink) (lines more : List String) :
    sink.writeEach (lines ++ more) = (((sink.writeEach lines).1.writeEach more).1,
      (sink.writeEach lines).2 ++ ((sink.writeEach lines).1.writeEach more).2) := by
  induction lines generalizing sink with
  | nil => rfl
  | cons line lines ih =>
    rw [List.cons_append, writeEach_cons, ih, writeEach_cons, List.append_assoc]

theorem writeLine_buffer (b : Buffer) (line : String) : ∃ b',
    ((buffer b).writeLine line).1 = .buffer b' ∧ b'.limit = b.limit ∧
      b'.content = b.content ++ b.fitting (encode line ++ [LineLogger.lineBreak]) := by
  have hcontent := b.content_write (encode line ++ [LineLogger.lineBreak])
  have hlimit := b.limit_write (encode line ++ [LineLogger.lineBreak])
  unfold writeLine
  dsimp only
  split
  · exact ⟨_, rfl, hlimit, hcontent⟩
  · exact ⟨_, rfl, hlimit, hcontent⟩

/-- A buffer takes of lines what it has room for, and goes on asking with every line. -/
theorem writeEach_buffer (b : Buffer) (lines : List String) : ∃ b',
    ((buffer b).writeEach lines).1 = .buffer b' ∧ b'.limit = b.limit ∧
      b'.content = b.content ++ b.fitting (lineBytes lines) := by
  induction lines generalizing b with
  | nil => exact ⟨b, rfl, rfl, by simp [lineBytes, Buffer.fitting_nil]⟩
  | cons line lines ih =>
    obtain ⟨b₁, hline, hlimit₁, hcontent₁⟩ := writeLine_buffer b line
    obtain ⟨b₂, hlines, hlimit₂, hcontent₂⟩ := ih b₁
    refine ⟨b₂, ?_, hlimit₂.trans hlimit₁, ?_⟩
    · rw [writeEach_cons, hline, hlines]
    · rw [hcontent₂, hcontent₁, List.append_assoc, lineBytes_cons,
        Buffer.fitting_append hlimit₁ hcontent₁]

/-- A buffer without a limit takes every line. -/
theorem writeEach_unlimited (b : Buffer) (hlimit : b.limit = none)
    (hflush : b.failsToFlush = false) (lines : List String) : (buffer b).writeEach lines =
      (.buffer { b with
        content := b.content ++ lineBytes lines
        flushes := b.flushes + lines.length }, []) := by
  induction lines generalizing b with
  | nil => simp [writeEach, lineBytes]
  | cons line lines ih =>
    have hline : (buffer b).writeLine line = (.buffer { b with
        content := b.content ++ (encode line ++ [LineLogger.lineBreak])
        flushes := b.flushes + 1 }, []) := by
      simp [writeLine, Buffer.write, Buffer.flush, hlimit, hflush]
    have hrest := ih { b with
      content := b.content ++ (encode line ++ [LineLogger.lineBreak])
      flushes := b.flushes + 1 } hlimit hflush
    have hcount : b.flushes + 1 + lines.length = b.flushes + (lines.length + 1) := by omega
    rw [writeEach_cons, hline]
    dsimp only
    rw [hrest, lineBytes_cons, List.length_cons, List.append_assoc, hcount]
    rfl

theorem record_append (l : LineLogger) (bytes : List UInt8) (h : EndsVisibly line) :
    l.record (bytes ++ encode line) = l.recordOf (decodeLossy bytes ++ line) := by
  have htrim : Text.trimEndMatches (· == '\r') (decodeLossy bytes ++ line) =
      decodeLossy bytes ++ line := by
    refine (h.append _).trimEndMatches_eq fun c hc => ?_
    rw [beq_iff_eq.1 hc]
    decide
  rw [← htrim, ← Text.Utf8.decodeLossy_append_encode]
  rfl

/-- A line goes behind what was begun, and ends it. -/
theorem writeLine_logger {l : LineLogger} (hbegun : LineLogger.lineBreak ∉ l.begun)
    (hline : IsLine line) : (logger l).writeLine line =
      (.logger { l with begun := [] }, [l.recordOf (decodeLossy l.begun ++ line)]) := by
  have hlined : Lined LineLogger.lineBreak (l.begun ++ (encode line ++ [LineLogger.lineBreak]))
      [l.begun ++ encode line] [] := by
    rw [← List.append_assoc]
    refine Lined.of_line fun hmem => ?_
    exact (List.mem_append.1 hmem).elim hbegun (lineBreak_not_mem_encode hline.not_mem)
  rw [← record_append l l.begun hline.endsVisibly]
  unfold writeLine
  dsimp only
  rw [LineLogger.write_of_lined hlined]
  rfl

/-- A logger without a line begun makes one record of each line. -/
theorem writeEach_logger {l : LineLogger} (hbegun : l.begun = [])
    (hlines : ∀ line ∈ lines, IsLine line) :
    (logger l).writeEach lines = (.logger l, lines.map l.recordOf) := by
  obtain ⟨stream, color, begun⟩ := l
  obtain rfl : begun = [] := hbegun
  induction lines with
  | nil => rfl
  | cons line lines ih =>
    obtain ⟨hline, hlines⟩ := List.forall_mem_cons.1 hlines
    have hshown : decodeLossy [] ++ line = line := String.empty_append
    rw [writeEach_cons, writeLine_logger List.not_mem_nil hline, hshown]
    dsimp only
    rw [ih hlines]
    rfl

/-- The first line goes behind what was begun, and the others do as in a new logger. -/
theorem writeEach_logger_cons {l : LineLogger} (hbegun : LineLogger.lineBreak ∉ l.begun)
    (hlines : ∀ line' ∈ line :: lines, IsLine line') : (logger l).writeEach (line :: lines) =
      (.logger { l with begun := [] },
        ((decodeLossy l.begun ++ line) :: lines).map l.recordOf) := by
  obtain ⟨hline, hlines⟩ := List.forall_mem_cons.1 hlines
  rw [writeEach_cons, writeLine_logger hbegun hline]
  dsimp only
  rw [writeEach_logger rfl hlines]
  rfl

end Sink

/-- What the lines of a text come to in every sink. -/
structure Forwarded (s : String) : Prop where
  /-- The lines that are not blank are written in order, without the white space at their ends. -/
  lines : ∃ lines rest, Lined '\n' s.toList lines rest ∧ List.Forall₂ Text.ShownAs
    ((lines ++ [rest]).filter fun line => !line.all isBlank) (Sink.visibleLines s)
  /-- A buffer that takes everything gets each with a line break behind it. -/
  unlimited : ∀ b : Buffer, b.limit = none → b.failsToFlush = false →
    (Sink.buffer b).writeLines s =
      (.buffer { b with
        content := b.content ++ Sink.lineBytes (Sink.visibleLines s)
        flushes := b.flushes + (Sink.visibleLines s).length }, [])
  /-- Any other one gets what it has room for. -/
  limited : ∀ b : Buffer, ∃ b', ((Sink.buffer b).writeLines s).1 = .buffer b' ∧
    b'.content = b.content ++ b.fitting (Sink.lineBytes (Sink.visibleLines s))
  /-- What is written is a text, which is written as the same again. -/
  again : ∃ t, Text.Utf8.decode? (Sink.lineBytes (Sink.visibleLines s)) = .ok t ∧
    ∀ sink : Sink, sink.writeLines t = sink.writeLines s
  /-- A line break between two texts is as good as writing them one after the other. -/
  joined : ∀ (more : String) (sink : Sink), sink.writeLines (s ++ "\n" ++ more) =
    (((sink.writeLines s).1.writeLines more).1,
      (sink.writeLines s).2 ++ ((sink.writeLines s).1.writeLines more).2)
  /-- A logger without a line begun makes one record of each, and has none begun then. -/
  logged : ∀ l : LineLogger, l.begun = [] → (Sink.logger l).writeLines s =
    (.logger l, (Sink.visibleLines s).map l.recordOf)
  /-- A line begun is kept if there is none. -/
  logged_none : ∀ l : LineLogger, Sink.visibleLines s = [] →
    (Sink.logger l).writeLines s = (.logger l, [])
  /-- The first one goes behind a line begun. -/
  logged_behind : ∀ (l : LineLogger) (first : String) (more : List String),
    LineLogger.lineBreak ∉ l.begun → Sink.visibleLines s = first :: more →
    (Sink.logger l).writeLines s = (.logger { l with begun := [] },
      ((decodeLossy l.begun ++ first) :: more).map l.recordOf)

theorem forwarded (s : String) : Forwarded s := by
  have hlines : ∀ line ∈ Sink.visibleLines s, Sink.IsLine line := fun _ => Sink.isLine_of_mem
  constructor
  case lines =>
    obtain ⟨lines, rest, h⟩ := exists_lined '\n' s.toList
    exact ⟨lines, rest, h, Sink.shownAs_visibleLines h⟩
  case unlimited => exact fun b hlimit hflush => Sink.writeEach_unlimited b hlimit hflush _
  case limited =>
    intro b
    obtain ⟨b', heq, -, hcontent⟩ := Sink.writeEach_buffer b (Sink.visibleLines s)
    exact ⟨b', heq, hcontent⟩
  case again =>
    obtain ⟨t, ht, hsame⟩ := Sink.exists_decode?_lineBytes s
    exact ⟨t, ht, fun sink => congrArg sink.writeEach hsame⟩
  case joined =>
    intro more sink
    exact (congrArg sink.writeEach (Sink.visibleLines_append s more)).trans
      (sink.writeEach_append_eq _ _)
  case logged => exact fun l hbegun => Sink.writeEach_logger hbegun hlines
  case logged_none =>
    intro l hnone
    rw [Sink.writeLines, hnone]
    rfl
  case logged_behind =>
    intro l first more hbegun hcons
    rw [hcons] at hlines
    rw [Sink.writeLines, hcons, Sink.writeEach_logger_cons hbegun hlines]

/-- A buffer that is full takes no more, a color shows around the line, and a line begun shows in
front of it and stays where there is none. -/
theorem forwarded_otherwise :
    (∀ b, ((Sink.buffer (.empty (some 3) false)).writeLines "ab\ncd\n").1 = .buffer b →
      b.content ≠ Sink.lineBytes (Sink.visibleLines "ab\ncd\n")) ∧
    ((Sink.logger (.new .stdout (some 32))).writeLines "a").2 ≠
      (Sink.visibleLines "a").map (LineLogger.new .stdout none).recordOf ∧
    ((Sink.logger ((LineLogger.new .stdout none).write [120]).1).writeLines "a").2 ≠
      (Sink.visibleLines "a").map (LineLogger.new .stdout none).recordOf ∧
    ((Sink.logger ((LineLogger.new .stdout none).write [120]).1).writeLines "").1 ≠
      .logger (.new .stdout none) := by
  refine ⟨fun b hb => ?_, by decide +kernel, by decide +kernel, by decide +kernel⟩
  have hfull : ((Sink.buffer (.empty (some 3) false)).writeLines "ab\ncd\n").1 =
      .buffer ⟨[97, 98, 10], some 3, false, 1⟩ := by decide +kernel
  obtain rfl := Sink.buffer.inj (hb.symm.trans hfull)
  decide +kernel

end ImageBuild
