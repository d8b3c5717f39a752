import ImageBuild.Config.Printer
import ImageBuild.Proofs.Config.Documents
import ImageBuild.Proofs.Json.Printing

/-!
# Reading what is written

A configuration is read back from its compact document and from every other document that describes
it, and from nothing else (`Config.parse_toJson`).
-/

namespace ImageBuild

open Json

/-! ## The compact document -/

/-- The value that a section is written as. -/
def Section.value (s : Section) : Value :=
  .object [
    (some "name", .text s.name),
    (some "dockerfile", .text s.dockerfile),
    (some "registry", .text s.registry),
    (some "project", .text s.project),
    (some "tags", .list (s.tags.map fun tag => .text tag.text)),
    (some "skip_push", .boolean s.skipPush)]

/-- The value that a configuration is written as. -/
def Config.value (c : Config) : Value :=
  .object [
    (some "version", .number (writtenNatural c.version.toNat)),
    (some "containers", .list (c.sections.map Section.value))]

theorem written_text (s : String) : Part.Written (.value (.text s)) (writtenText s) :=
  .text (stringWritten_writtenText s)

theorem written_boolean (b : Bool) : Part.Written (.value (.boolean b)) (writtenBoolean b) := by
  cases b with
  | true => exact .true
  | false => exact .false

theorem Section.written_value (s : Section) : Part.Written (.value s.value) s.written := by
  have htags : List.Forall₂ (fun v cs => Part.Written (.value v) cs)
      (s.tags.map fun tag => .text tag.text) (s.tags.map TagSpec.written) := by
    rw [List.forall₂_map_left_iff, List.forall₂_map_right_iff, List.forall₂_same]
    exact fun tag _ => written_text tag.text
  exact written_object (.cons ⟨rfl, written_text _⟩ (.cons ⟨rfl, written_text _⟩
    (.cons ⟨rfl, written_text _⟩ (.cons ⟨rfl, written_text _⟩
      (.cons ⟨rfl, written_list htags⟩ (.cons ⟨rfl, written_boolean _⟩ .nil))))))

theorem Config.writtenIn_toJson (c : Config) : c.value.WrittenIn c.toJson.toList := by
  have hsections : List.Forall₂ (fun v cs => Part.Written (.value v) cs)
      (c.sections.map Section.value) (c.sections.map Section.written) := by
    rw [List.forall₂_map_left_iff, List.forall₂_map_right_iff, List.forall₂_same]
    exact fun s _ => s.written_value
  refine ⟨[], _, [], nofun, ?_, nofun, by rw [List.append_nil, List.nil_append]⟩
  rw [toJson, String.toList_ofList]
  exact written_object (.cons ⟨rfl, .number (isNumber_writtenNatural _)⟩
    (.cons ⟨rfl, written_list hsections⟩ .nil))

/-! ## What it describes -/

/-- A configuration whose tags are all read from a text. -/
def Config.IsSpelled (c : Config) : Prop :=
  ∀ s ∈ c.sections, ∀ tag ∈ s.tags, ∃ text, tag = TagSpec.ofText text

theorem isTag_text {tag : TagSpec} (h : ∃ text, tag = TagSpec.ofText text) :
    IsTag (.text tag.text) tag := by
  obtain ⟨text, rfl⟩ := h
  exact ⟨_, rfl, by rw [TagSpec.text_ofText]⟩

theorem isWord32_writtenNatural (w : UInt32) : IsWord32 (.number (writtenNatural w.toNat)) w :=
  ⟨_, rfl, (isNatural_writtenNatural _).1.2, Nat.ofDigitChars_ten_toDigits⟩

theorem Section.isSection_value {s : Section}
    (h : ∀ tag ∈ s.tags, ∃ text, tag = TagSpec.ofText text) : IsSection s.value s := by
  have htags : IsList IsTag (.list (s.tags.map fun tag => .text tag.text)) s.tags := by
    refine ⟨_, rfl, ?_⟩
    rw [List.forall₂_map_left_iff, List.forall₂_same]
    exact fun tag htag => isTag_text (h tag htag)
  refine ⟨_, .object, by simp, ?_, ?_, ?_, ?_, ?_, ?_⟩
  · exact Or.inl ⟨_, rfl, rfl⟩
  · exact Or.inl ⟨_, rfl, rfl⟩
  · exact Or.inl ⟨_, rfl, rfl⟩
  · exact Or.inl ⟨_, rfl, rfl⟩
  · exact Or.inl ⟨_, rfl, htags⟩
  · exact Or.inl ⟨_, rfl, rfl⟩

theorem Config.isConfig_value {c : Config} (h : c.IsSpelled) : IsConfig c.value c := by
  have hsections : IsList IsSection (.list (c.sections.map Section.value)) c.sections := by
    refine ⟨_, rfl, ?_⟩
    rw [List.forall₂_map_left_iff, List.forall₂_same]
    exact fun s hs => Section.isSection_value (h s hs)
  refine ⟨_, .object, by simp, ?_, ?_⟩
  · exact Or.inl ⟨_, rfl, isWord32_writtenNatural _⟩
  · exact Or.inl ⟨_, rfl, hsections⟩

/-! ## Round trip -/

/-- A configuration whose tags are spelled is read back from its compact document. That document is
one of those that describe the configuration, which are the documents of JSON it is read from; and a
document that repeats a field or omits a required one is malformed. -/
theorem Config.parse_toJson (c : Config) (hc : c.IsSpelled) :
    Config.parse c.toJson = .ok c ∧
      (∃ v, v.WrittenIn c.toJson.toList ∧ IsConfig v c) ∧
      ∀ (v : Value) (document : String), v.WrittenIn document.toList →
        (Config.parse document = .ok c ↔ IsConfig v c) ∧
        (v.IsBroken →
          ∃ fault, Config.parse document = .error (.config (.malformed document fault))) := by
  have hwritten := c.writtenIn_toJson
  have hconfig := Config.isConfig_value hc
  exact ⟨(Config.parse_eq_ok_iff hwritten).2 hconfig, ⟨c.value, hwritten, hconfig⟩,
    fun v document h => ⟨Config.parse_eq_ok_iff h, Config.parse_of_isBroken h⟩⟩

/-- A section that is written as a list. -/
def Json.Value.listedSection : Value :=
  .list [.text "a", .text "D", .text "", .text "p", .list [.text "git:sha"]]

/-- A configuration without its version, and with a member that it does not know. -/
def Json.Value.listed : Value :=
  .object [(some "x", .list [.number ['-', '1'], .text none]),
    (some "containers", .list [.listedSection])]

/-- A document of `Json.Value.listed`. Half of a pair stands alone in it, and a name is escaped. -/
def Json.Value.listedDocument : String :=
  " \x7b\"x\":[-1,\"\\uD800\"]," ++
    "\"containers\":[[\"\\u0061\",\"D\",\"\",\"p\",[\"git:sha\"]]]\x7d\n"

theorem Json.Value.writtenIn_listedDocument :
    Value.listed.WrittenIn Value.listedDocument.toList := by
  have hzero : IsHexDigit '0' 0 := ⟨by decide, Or.inl rfl⟩
  have hnumber : IsNumber ['-', '1'] :=
    Or.inr ⟨_, ⟨['1'], [], [], isNatural_writtenNatural 1, .none, .none, rfl⟩, rfl⟩
  have halone : StringWritten none ['"', '\\', 'u', 'D', '8', '0', '0', '"'] :=
    ⟨_, _, .cons (.unit (i := 13) (j := 8) ⟨by decide, Or.inr rfl⟩ ⟨by decide, Or.inl rfl⟩ hzero
      hzero) .nil, by simp [textOf], rfl⟩
  have hescaped : StringWritten "a" ['"', '\\', 'u', '0', '0', '6', '1', '"'] :=
    ⟨_, _, .cons (.unit (k := 6) (l := 1) hzero hzero ⟨by decide, Or.inl rfl⟩
      ⟨by decide, Or.inl rfl⟩) .nil, by simp [textOf], rfl⟩
  have hsection := written_list (.cons (.text hescaped) (.cons (written_text "D")
    (.cons (written_text "") (.cons (written_text "p")
      (.cons (written_list (.cons (written_text "git:sha") .nil)) .nil)))))
  have hx := written_list (.cons (.number hnumber) (.cons (.text halone) .nil))
  exact ⟨[' '], _, ['\n'], by simp [Blanks, isJsonBlank],
    written_object (.cons (b := ("x", _)) ⟨rfl, hx⟩
      (.cons (b := ("containers", _)) ⟨rfl, written_list (.cons hsection .nil)⟩ .nil)),
    by simp [Blanks, isJsonBlank], rfl⟩

theorem isConfig_listed :
    IsConfig .listed (.ofSections [⟨"a", "D", "", "p", [.revision true], false⟩]) := by
  have htags : IsList IsTag (.list [.text "git:sha"]) [.revision true] :=
    ⟨_, rfl, .cons ⟨_, rfl, rfl⟩ .nil⟩
  have hsection : IsSection .listedSection ⟨"a", "D", "", "p", [.revision true], false⟩ := by
    refine ⟨_, .list (by decide), by decide, Or.inl ⟨_, rfl, rfl⟩, Or.inl ⟨_, rfl, rfl⟩,
      Or.inl ⟨_, rfl, rfl⟩, Or.inl ⟨_, rfl, rfl⟩, Or.inl ⟨_, rfl, htags⟩, Or.inr ⟨rfl, rfl⟩⟩
  exact ⟨_, .object, by simp, Or.inr ⟨by simp [valuesOf], rfl⟩,
    Or.inl ⟨_, by simp [valuesOf], _, rfl, .cons hsection .nil⟩⟩

/-- A configuration that gives its version twice. -/
def Json.Value.twice : Value :=
  .object [(some "version", .number ['1']), (some "version", .number ['1'])]

/-- The document of `Json.Value.listed` is read, and one that names the version twice is not. -/
theorem Config.parse_toJson_listed :
    Config.parse Value.listedDocument =
        .ok (.ofSections [⟨"a", "D", "", "p", [.revision true], false⟩]) ∧
      ∃ fault, Config.parse "\x7b\"version\":1,\"version\":1\x7d" =
        .error (.config (.malformed "\x7b\"version\":1,\"version\":1\x7d" fault)) := by
  have hspelled : (Config.ofSections [⟨"a", "D", "", "p", [.revision true], false⟩]).IsSpelled := by
    simp only [IsSpelled, Config.ofSections, List.forall_mem_singleton]
    exact ⟨"git:sha", rfl⟩
  have hone : Part.Written (.value (.number ['1'])) ['1'] := .number (isNumber_writtenNatural 1)
  have htwice : Value.twice.WrittenIn
      "\x7b\"version\":1,\"version\":1\x7d".toList :=
    ⟨[], _, [], blanks_nil, written_object (.cons (b := ("version", _)) ⟨rfl, hone⟩
      (.cons (b := ("version", _)) ⟨rfl, hone⟩ .nil)), blanks_nil, rfl⟩
  have hbroken : Value.twice.IsBroken :=
    Or.inl ⟨_, rfl, "version", by simp [Config.fieldNames], by simp [valuesOf]⟩
  obtain ⟨-, -, hdocuments⟩ := Config.parse_toJson _ hspelled
  exact ⟨(hdocuments _ _ Value.writtenIn_listedDocument).1.2 isConfig_listed,
    (hdocuments _ _ htwice).2 hbroken⟩

end ImageBuild
