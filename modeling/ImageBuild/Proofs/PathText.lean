import ImageBuild.Proofs.FileSystem.WellFormed
import ImageBuild.Archive.Unpack

/-!
# Texts of names and places

Names that lead down, from the root of the file system or from a directory, have a text that is read
back as it was written (`ofText_ofNames`). The text of a place is that of its names from the root
(`ofText_text`). With a slash behind it the text also asks for a directory
(`ofText_joinText_text`).
-/

namespace ImageBuild

namespace Text

variable {α : Type} [DecidableEq α]

/-- Cutting at a separator is the cutting of the standard library. -/
theorem split_eq_splitOn (sep : α) (xs : List α) : split sep xs = xs.splitOn sep := by
  induction xs with
  | nil => rfl
  | cons x xs ih =>
    rw [List.splitOn_cons_eq_if_modifyHead, ← ih, split]
    by_cases hx : x = sep
    · rw [if_pos hx, if_pos (beq_iff_eq.2 hx)]
    · rw [if_neg hx, if_neg (by simpa using hx)]
      rcases hs : split sep xs with _ | ⟨part, parts⟩
      · exact absurd hs (split_ne_nil sep xs)
      · rfl

theorem splitText_cons (sep : Char) (s : String) :
    splitText sep (String.singleton sep ++ s) = "" :: splitText sep s := by
  simp [splitText, split]

theorem splitText_intercalate {sep : Char} {parts : List String}
    (hsep : ∀ part ∈ parts, sep ∉ part.toList) (hne : parts ≠ []) :
    splitText sep ((String.singleton sep).intercalate parts) = parts := by
  unfold splitText
  rw [split_eq_splitOn, String.toList_intercalate, String.toList_singleton,
    List.splitOn_intercalate sep (by simpa using hsep) (by simpa using hne), List.map_map]
  simp [Function.comp_def]

theorem mem_intercalate {sep : String} {parts : List String} {c : Char}
    (h : c ∈ (sep.intercalate parts).toList) :
    c ∈ sep.toList ∨ ∃ part ∈ parts, c ∈ part.toList := by
  induction parts with
  | nil => simp at h
  | cons part rest ih =>
    by_cases hr : rest = []
    · exact Or.inr ⟨part, List.mem_cons_self, by simpa [hr] using h⟩
    · rw [String.intercalate_cons_of_ne_nil hr, String.toList_append, String.toList_append,
        List.mem_append, List.mem_append] at h
      rcases h with (h | h) | h
      · exact Or.inr ⟨part, List.mem_cons_self, h⟩
      · exact Or.inl h
      · exact (ih h).imp_right fun ⟨p, hp, hc⟩ => ⟨p, List.mem_cons_of_mem _ hp, hc⟩

theorem exists_toList_intercalate_cons (sep first : String) (rest : List String) :
    ∃ back, (sep.intercalate (first :: rest)).toList = first.toList ++ back := by
  by_cases hr : rest = []
  · exact ⟨[], by simp [hr]⟩
  · exact ⟨(sep ++ sep.intercalate rest).toList, by
      simp [String.intercalate_cons_of_ne_nil hr]⟩

theorem exists_toList_intercalate_concat (sep : String) (init : List String) (last : String) :
    ∃ front, (sep.intercalate (init ++ [last])).toList = front ++ last.toList := by
  by_cases hi : init = []
  · exact ⟨[], by simp [hi]⟩
  · exact ⟨(sep.intercalate init ++ sep).toList, by
      simp [String.intercalate_append_of_ne_nil hi (List.cons_ne_nil last [])]⟩

/-- A text does not start with a slash if a part without slashes stands in front. -/
theorem startsWith_slash_eq_false {s first : String} {back : List Char}
    (h : s.toList = first.toList ++ back) (hne : first ≠ "") (hslash : '/' ∉ first.toList) :
    s.startsWith "/" = false := by
  rw [Bool.eq_false_iff, ne_eq, String.startsWith_string_iff, h]
  obtain ⟨c, cs, hcs⟩ := List.exists_cons_of_ne_nil (show first.toList ≠ [] by simpa using hne)
  rw [hcs] at hslash ⊢
  rintro ⟨after, hafter⟩
  obtain rfl : '/' = c := (List.cons.inj hafter).1
  exact hslash List.mem_cons_self

/-- A text does not end with a slash if a part without slashes stands at its end. -/
theorem endsWith_slash_eq_false {s last : String} {front : List Char}
    (h : s.toList = front ++ last.toList) (hne : last ≠ "") (hslash : '/' ∉ last.toList) :
    s.endsWith "/" = false := by
  rw [← String.endsWith_toSlice, String.Slice.endsWith_string_eq_false_iff, String.copy_toSlice, h]
  rintro ⟨before, hbefore⟩
  have hends := congrArg List.getLast? hbefore
  have hne' : last.toList ≠ [] := by simpa using hne
  rw [List.getLast?_append_of_ne_nil _ hne', List.getLast?_eq_some_getLast hne'] at hends
  simp only [String.reduceToList, List.getLast?_append, List.getLast?_singleton, Option.some_or,
    Option.some.injEq] at hends
  exact hslash (hends ▸ List.getLast_mem hne')

end Text

namespace Path

variable {rooted : Bool} {n : Name} {names : List Name}

/-! ## Steps -/

/-- A name by which a path can go, be there an entry that can have it or not. -/
def IsName (n : Name) : Prop :=
  n ≠ "" ∧ n ≠ "." ∧ n ≠ ".." ∧ '/' ∉ n.toList

theorem IsName.of_isEntryName (h : IsEntryName n) : IsName n :=
  ⟨h.1, h.2.1, h.2.2.1, h.2.2.2.1⟩

theorem IsName.ofText (h : IsName n) : Step.ofText n = .name n := by
  unfold Step.ofText
  rw [if_neg h.2.1, if_neg h.2.2.1]

theorem stepsOfParts_cons {part : String} {parts : List String} (hpart : part ≠ "")
    (hne : parts ≠ []) : stepsOfParts (part :: parts) = Step.ofText part :: stepsOfParts parts := by
  cases parts with
  | nil => exact absurd rfl hne
  | cons next rest => simp [stepsOfParts, hpart]

theorem stepsOfParts_empty_cons {parts : List String} (hne : parts ≠ []) :
    stepsOfParts ("" :: parts) = stepsOfParts parts := by
  cases parts with
  | nil => exact absurd rfl hne
  | cons next rest => simp [stepsOfParts]

theorem stepsOfParts_names (h : ∀ n ∈ names, IsName n) :
    stepsOfParts names = namesToSteps names := by
  induction names with
  | nil => rfl
  | cons name rest ih =>
    have hname := h name List.mem_cons_self
    have hrest := ih fun n hn => h n (List.mem_cons_of_mem _ hn)
    by_cases hr : rest = []
    · subst hr
      rw [stepsOfParts, if_neg hname.1, hname.ofText]
      rfl
    · rw [stepsOfParts_cons hname.1 hr, hname.ofText, hrest]
      rfl

/-- An empty part at the end asks for a directory. -/
theorem stepsOfParts_names_concat (h : ∀ n ∈ names, IsName n) :
    stepsOfParts (names ++ [""]) = namesToSteps names ++ [.here] := by
  induction names with
  | nil => rfl
  | cons name rest ih =>
    have hname := h name List.mem_cons_self
    rw [List.cons_append, stepsOfParts_cons hname.1 (by simp), hname.ofText,
      ih fun n hn => h n (List.mem_cons_of_mem _ hn)]
    rfl

/-! ## Texts of names -/

/-- The path that goes down by names, from the root of the file system or from a directory. -/
def ofNames (rooted : Bool) (names : List Name) : Path :=
  ⟨rooted, namesToSteps names⟩

theorem text_ofNames (rooted : Bool) (names : List Name) :
    (ofNames rooted names).text = (if rooted then "/" else "") ++ "/".intercalate names := by
  have htexts : (namesToSteps names).map Step.text = names := by
    simp [namesToSteps, Function.comp_def, Step.text]
  unfold text ofNames
  rw [htexts]

theorem startsWith_ofNames (h : ∀ n ∈ names, IsName n) :
    (ofNames rooted names).text.startsWith "/" = rooted := by
  rw [text_ofNames]
  cases rooted with
  | true =>
    rw [String.startsWith_string_iff]
    simp
  | false =>
    cases names with
    | nil => decide +kernel
    | cons n rest =>
      obtain ⟨hempty, -, -, hslash⟩ := h n List.mem_cons_self
      obtain ⟨back, hback⟩ := Text.exists_toList_intercalate_cons "/" n rest
      exact Text.startsWith_slash_eq_false (by simpa using hback) hempty hslash

theorem exists_toList_ofNames (rooted : Bool) (hne : names ≠ []) :
    ∃ front, (ofNames rooted names).text.toList = front ++ (names.getLast hne).toList := by
  obtain ⟨front, hfront⟩ :=
    Text.exists_toList_intercalate_concat "/" names.dropLast (names.getLast hne)
  rw [List.dropLast_append_getLast hne] at hfront
  refine ⟨(if rooted then "/" else "").toList ++ front, ?_⟩
  rw [text_ofNames, String.toList_append, hfront, List.append_assoc]

theorem text_ofNames_ne_empty (h : ∀ n ∈ names, IsName n) (hne : names ≠ []) :
    (ofNames rooted names).text ≠ "" := by
  obtain ⟨front, hfront⟩ := exists_toList_ofNames rooted hne
  intro hempty
  rw [hempty] at hfront
  have hnil : front = [] ∧ names.getLast hne = "" := by simpa using hfront
  exact (h _ (List.getLast_mem hne)).1 hnil.2

theorem endsWith_ofNames (h : ∀ n ∈ names, IsName n) (hne : names ≠ []) :
    (ofNames rooted names).text.endsWith "/" = false := by
  obtain ⟨hempty, -, -, hslash⟩ := h _ (List.getLast_mem hne)
  obtain ⟨front, hfront⟩ := exists_toList_ofNames rooted hne
  exact Text.endsWith_slash_eq_false hfront hempty hslash

theorem splitText_ofNames (h : ∀ n ∈ names, IsName n) (hne : names ≠ []) :
    Text.splitText '/' (ofNames rooted names).text = if rooted then "" :: names else names := by
  have hsplit : Text.splitText '/' ("/".intercalate names) = names :=
    Text.splitText_intercalate (fun n hn => (h n hn).2.2.2) hne
  rw [text_ofNames]
  cases rooted with
  | true => exact (Text.splitText_cons '/' _).trans (congrArg ("" :: ·) hsplit)
  | false => simpa using hsplit

/-- Names that are written as a text are read back. -/
theorem ofText_ofNames (h : ∀ n ∈ names, IsName n) (hne : names ≠ []) :
    ofText (ofNames rooted names).text = ofNames rooted names := by
  unfold ofText
  rw [if_neg (text_ofNames_ne_empty h hne), startsWith_ofNames h, splitText_ofNames h hne]
  cases rooted with
  | true =>
    rw [if_pos rfl, stepsOfParts_empty_cons hne, stepsOfParts_names h]
    rfl
  | false =>
    rw [if_neg Bool.false_ne_true, stepsOfParts_names h]
    rfl

/-- A text without a slash in front goes behind the text of names and a slash. -/
theorem joinText_text_ofNames (h : ∀ n ∈ names, IsName n) (hne : names ≠ []) {extension : String}
    (hslash : extension.startsWith "/" = false) :
    joinText (ofNames rooted names).text extension =
      (ofNames rooted names).text ++ "/" ++ extension := by
  unfold joinText
  rw [if_neg (by simp [hslash]), endsWith_ofNames h hne,
    if_neg (by simp [text_ofNames_ne_empty h hne])]

end Path

/-! ## Texts of places -/

variable {place : Place}

theorem Place.text_eq_ofNames (place : Place) : place.text = (Path.ofNames true place).text :=
  (Path.text_ofNames true place).symm

theorem Place.text_ne_empty (place : Place) : place.text ≠ "" := by
  intro h
  have := congrArg String.toList h
  simp [Place.text] at this

theorem Place.startsWith_text (place : Place) : place.text.startsWith "/" = true := by
  rw [String.startsWith_string_iff]
  simp [Place.text]

theorem Place.zero_not_mem_text (h : ∀ name ∈ place, IsEntryName name) :
    '\x00' ∉ place.text.toList := by
  intro hmem
  rw [Place.text, String.toList_append, List.mem_append] at hmem
  rcases hmem with hmem | hmem
  · exact absurd hmem (by decide)
  · rcases Text.mem_intercalate hmem with hmem | ⟨name, hname, hmem⟩
    · exact absurd hmem (by decide)
    · exact (h name hname).2.2.2.2 hmem

/-- Reading the text of a place gives the steps to it. -/
theorem Path.ofText_text (h : ∀ name ∈ place, IsEntryName name) (hne : place ≠ []) :
    Path.ofText place.text = ⟨true, namesToSteps place⟩ := by
  rw [place.text_eq_ofNames]
  exact ofText_ofNames (fun n hn => .of_isEntryName (h n hn)) hne

/-- The text of a place below another one. -/
theorem Place.text_append {path : List Name} (hne : place ≠ []) (hpath : path ≠ []) :
    Place.text (place ++ path) = place.text ++ "/" ++ relativeText path := by
  unfold Place.text relativeText
  rw [String.intercalate_append_of_ne_nil hne hpath]
  simp [String.append_assoc]

/-- A text without a slash in front goes behind the text of a place and a slash. -/
theorem joinText_text (h : ∀ name ∈ place, IsEntryName name) (hne : place ≠ []) {extension : String}
    (hslash : extension.startsWith "/" = false) :
    joinText place.text extension = place.text ++ "/" ++ extension := by
  rw [place.text_eq_ofNames]
  exact Path.joinText_text_ofNames (fun n hn => .of_isEntryName (h n hn)) hne hslash

/-- The text of a path below a place is the text of the place that it leads to. -/
theorem joinText_text_relativeText (h : ∀ name ∈ place, IsEntryName name) (hne : place ≠ [])
    {path : List Name} (hpath : path ≠ []) (hnames : ∀ name ∈ path, IsEntryName name) :
    joinText place.text (relativeText path) = Place.text (place ++ path) := by
  obtain ⟨first, rest, rfl⟩ := List.exists_cons_of_ne_nil hpath
  obtain ⟨hfirst, -, -, hslash, -⟩ := hnames first List.mem_cons_self
  obtain ⟨back, hback⟩ := Text.exists_toList_intercalate_cons "/" first rest
  rw [Place.text_append hne hpath, joinText_text h hne]
  exact Text.startsWith_slash_eq_false hback hfirst hslash

/-- Reading the text of a place with a slash behind it gives the steps to it and one that asks for
a directory. -/
theorem Path.ofText_joinText_text (h : ∀ name ∈ place, IsEntryName name) :
    Path.ofText (joinText place.text "") = ⟨true, namesToSteps place ++ [.here]⟩ := by
  by_cases hnil : place = []
  · subst hnil
    decide +kernel
  · have htext : joinText place.text "" = "/" ++ "/".intercalate (place ++ [""]) := by
      rw [String.intercalate_append_of_ne_nil hnil (List.cons_ne_nil "" []),
        joinText_text h hnil (by decide +kernel)]
      simp [Place.text, String.append_assoc]
    have hsplit : Text.splitText '/' (joinText place.text "") = "" :: (place ++ [""]) := by
      have hsingle : "/" = String.singleton '/' := rfl
      rw [htext, hsingle, Text.splitText_cons, Text.splitText_intercalate _ (by simp)]
      intro part hpart
      rcases List.mem_append.1 hpart with hpart | hpart
      · exact (h part hpart).2.2.2.1
      · simp [List.mem_singleton.1 hpart]
    unfold Path.ofText
    rw [hsplit, stepsOfParts_empty_cons (by simp), stepsOfParts_names_concat fun n hn => .of_isEntryName (h n hn), if_neg, htext]
    · congr 1
      rw [String.startsWith_string_iff]
      simp
    · rw [htext]
      intro hempty
      simpa using congrArg String.toList hempty

end ImageBuild
