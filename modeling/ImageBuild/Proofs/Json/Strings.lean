import ImageBuild.Proofs.Json.Grammar

/-!
# Reading the spellings of a string

Every spelling of a text is read back as that text, one that has no text is refused
(`toOption_readBody`), and both are passed over within a value that is skipped (`skipBody_eq_ok`).
-/

namespace ImageBuild.Json

variable {rule : List Char → Except Fault (Char × Nat)} {ahead : Nat}

/-! ## Digits and letters -/

theorem IsHexDigit.hexDigit?_eq {c : Char} {n : Nat} (h : IsHexDigit c n) :
    hexDigit? c = some n := by
  have hdigits : ∀ n < 16, hexDigit? (Nat.digitChar n) = some n ∧
      hexDigit? (Nat.digitChar n).toUpper = some n := by decide
  obtain ⟨hn, rfl | rfl⟩ := h
  · exact (hdigits n hn).1
  · exact (hdigits n hn).2

theorem shortEscape_of_mem {letter c : Char} (h : (letter, c) ∈ shortForms) :
    shortEscape letter = some c := by
  have hforms : ∀ form ∈ shortForms, shortEscape form.1 = some form.2 := by decide
  exact hforms (letter, c) h

theorem four_le_byteSize (a b c d : Char) (cs : List Char) :
    4 ≤ byteSize (a :: b :: c :: d :: cs) := by
  have hpos := Char.utf8Size_pos
  simp only [byteSize, List.foldr_cons]
  have := hpos a
  have := hpos b
  have := hpos c
  have := hpos d
  omega

theorem hexUnit_eq_ok {a b c d : Char} {i j k l : Nat} (ha : IsHexDigit a i) (hb : IsHexDigit b j)
    (hc : IsHexDigit c k) (hd : IsHexDigit d l) (rest : List Char) :
    hexUnit (a :: b :: c :: d :: rest) = .ok (((i * 16 + j) * 16 + k) * 16 + l) := by
  have hdigits : (List.take 4 (a :: b :: c :: d :: rest)).mapM hexDigit? = some [i, j, k, l] := by
    simp [ha.hexDigit?_eq, hb.hexDigit?_eq, hc.hexDigit?_eq, hd.hexDigit?_eq]
  unfold hexUnit
  rw [if_neg (Nat.not_lt.2 (four_le_byteSize a b c d rest)), hdigits]

/-! ## One step of the reader -/

/-- A body is read up to its closing quote as some characters, or refused. -/
def ReadsBody (rule : List Char → Except Fault (Char × Nat)) (ahead : Nat) (body : List Char)
    (text : Option (List Char)) : Prop :=
  ∀ rest, (scanBody rule ahead 0 (body ++ '"' :: rest)).toOption = text.map (·, rest)

theorem scanBody_passed (front cs : List Char) :
    scanBody rule ahead front.length (front ++ cs) = scanBody rule ahead 0 cs := by
  induction front with
  | nil => rfl
  | cons c front ih => simpa [scanBody] using ih

theorem eq_ok_iff_toOption {α : Type} {reading : Except Fault α} {x : α} :
    reading = .ok x ↔ reading.toOption = some x := by
  cases reading <;> simp [Except.toOption]

theorem toOption_map {α β : Type} (reading : Except Fault α) (f : α → β) :
    (reading.map f).toOption = reading.toOption.map f := by
  cases reading <;> rfl

theorem scanBody_plain {c : Char} (hquote : c ≠ '"') (hslash : c ≠ '\\')
    (hcontrol : 32 ≤ c.toNat) (cs : List Char) :
    scanBody rule ahead 0 (c :: cs) =
      (scanBody rule ahead 0 cs).map fun (ds, rest) => (c :: ds, rest) := by
  rw [scanBody, if_neg hquote, if_neg hslash, if_neg (Nat.not_lt.2 hcontrol)]
  cases scanBody rule ahead 0 cs <;> rfl

/-- An escape that stands for a character and takes up `front`. -/
theorem scanBody_escape {front cs : List Char} {c : Char}
    (h : rule (front ++ cs) = .ok (c, front.length)) :
    scanBody rule ahead 0 ('\\' :: (front ++ cs)) =
      (scanBody rule ahead 0 cs).map fun (ds, rest) => (c :: ds, rest) := by
  rw [scanBody, if_neg (by decide), if_pos rfl, h]
  dsimp only
  rw [scanBody_passed]
  cases scanBody rule ahead 0 cs <;> rfl

theorem ReadsBody.nil : ReadsBody rule ahead [] (some []) := by
  intro rest
  simp [scanBody, Except.toOption]

theorem ReadsBody.plain {body : List Char} {text : Option (List Char)} {c : Char}
    (hquote : c ≠ '"') (hslash : c ≠ '\\') (hcontrol : 32 ≤ c.toNat)
    (h : ReadsBody rule ahead body text) :
    ReadsBody rule ahead (c :: body) (text.map (c :: ·)) := by
  intro rest
  rw [List.cons_append, scanBody_plain hquote hslash hcontrol, toOption_map, h rest]
  cases text <;> rfl

theorem ReadsBody.escape (front : List Char) {body : List Char} {text : Option (List Char)}
    {c : Char}
    (hrule : ∀ rest, rule (front ++ (body ++ '"' :: rest)) = .ok (c, front.length))
    (h : ReadsBody rule ahead body text) :
    ReadsBody rule ahead ('\\' :: (front ++ body)) (text.map (c :: ·)) := by
  intro rest
  rw [List.cons_append, List.append_assoc, scanBody_escape (hrule rest), toOption_map, h rest]
  cases text <;> rfl

theorem ReadsBody.refused {body : List Char}
    (hrule : ∀ rest, ∃ f, rule (body ++ '"' :: rest) = .error f) :
    ReadsBody rule ahead ('\\' :: body) none := by
  intro rest
  obtain ⟨f, hf⟩ := hrule rest
  rw [List.cons_append, scanBody, if_neg (by decide), if_pos rfl, hf]
  rfl

/-! ## Escapes -/

theorem ne_u_of_mem_shortForms {letter c : Char} (h : (letter, c) ∈ shortForms) :
    letter ≠ 'u' := by
  rintro rfl
  simp [shortForms] at h

theorem escape_short {letter c : Char} (h : (letter, c) ∈ shortForms) (cs : List Char) :
    escape (letter :: cs) = .ok (c, 1) := by
  unfold escape
  split
  · rename_i heq
    cases heq
  · rename_i heq
    exact absurd (List.cons.inj heq).1 (ne_u_of_mem_shortForms h)
  · rename_i heq
    obtain ⟨rfl, rfl⟩ := List.cons.inj heq
    rw [shortEscape_of_mem h]

theorem Symbol.Written.hexUnit_eq_ok {n : Nat} {front : List Char}
    (h : Symbol.Written (.unit n) front) :
    ∃ a b c d, front = ['\\', 'u', a, b, c, d] ∧
      ∀ rest, hexUnit (a :: b :: c :: d :: rest) = .ok n := by
  cases h with
  | unit ha hb hc hd => exact ⟨_, _, _, _, rfl, Json.hexUnit_eq_ok ha hb hc hd⟩

section Units

variable {a b c d : Char} {n m : Nat} {rest : List Char}

theorem isLeadingSurrogate_iff : isLeadingSurrogate n = true ↔ 0xD800 ≤ n ∧ n < 0xDC00 := by
  simp only [isLeadingSurrogate, Bool.and_eq_true, decide_eq_true_eq]
  omega

theorem isTrailingSurrogate_iff : isTrailingSurrogate n = true ↔ 0xDC00 ≤ n ∧ n ≤ 0xDFFF := by
  simp only [isTrailingSurrogate, Bool.and_eq_true, decide_eq_true_eq]

theorem not_isTrailingSurrogate_of_leading (h : isLeadingSurrogate n = true) :
    ¬ isTrailingSurrogate n = true := by
  rw [isLeadingSurrogate_iff] at h
  rw [isTrailingSurrogate_iff]
  omega

/-- A number that is no half of a pair. -/
theorem escape_single (hunit : hexUnit (a :: b :: c :: d :: rest) = .ok n)
    (hsingle : n < 0xD800 ∨ 0xDFFF < n) :
    escape ('u' :: a :: b :: c :: d :: rest) = .ok (Char.ofNat n, 5) := by
  have htrailing : ¬ isTrailingSurrogate n = true := by rw [isTrailingSurrogate_iff]; omega
  have hleading : ¬ isLeadingSurrogate n = true := by rw [isLeadingSurrogate_iff]; omega
  simp [escape, hunit, htrailing, hleading]

/-- Both halves of a pair. -/
theorem escape_pair {a' b' c' d' : Char}
    (hunit : hexUnit (a :: b :: c :: d :: '\\' :: 'u' :: a' :: b' :: c' :: d' :: rest) = .ok n)
    (hleading : isLeadingSurrogate n = true)
    (hsecond : hexUnit (a' :: b' :: c' :: d' :: rest) = .ok m)
    (htrailing : isTrailingSurrogate m = true) :
    escape ('u' :: a :: b :: c :: d :: '\\' :: 'u' :: a' :: b' :: c' :: d' :: rest) =
      .ok (pairedChar n m, 11) := by
  have hfirst := not_isTrailingSurrogate_of_leading hleading
  simp [escape, secondUnit, hunit, hsecond, hfirst, hleading, htrailing]

/-- Half of a pair, which is the second one or has no second one behind it. -/
theorem escape_half (hunit : hexUnit (a :: b :: c :: d :: rest) = .ok n)
    (hhalf : 0xD800 ≤ n ∧ n ≤ 0xDFFF)
    (hsecond : n < 0xDC00 → ∃ f, secondUnit n rest = .error f) :
    ∃ f, escape ('u' :: a :: b :: c :: d :: rest) = .error f := by
  by_cases hfirst : n < 0xDC00
  · obtain ⟨f, hf⟩ := hsecond hfirst
    have hleading := isLeadingSurrogate_iff.2 ⟨hhalf.1, hfirst⟩
    simp [escape, hunit, hf, hleading, not_isTrailingSurrogate_of_leading hleading]
  · have htrailing := isTrailingSurrogate_iff.2 ⟨Nat.le_of_not_lt hfirst, hhalf.2⟩
    simp [escape, hunit, htrailing, faultAt]

theorem secondUnit_of_not_trailing (hunit : hexUnit (a :: b :: c :: d :: rest) = .ok m)
    (htrailing : ¬ isTrailingSurrogate m = true) :
    ∃ f, secondUnit n ('\\' :: 'u' :: a :: b :: c :: d :: rest) = .error f := by
  simp [secondUnit, hunit, htrailing, faultAt]

theorem secondUnit_of_ne_slash (hslash : c ≠ '\\') :
    ∃ f, secondUnit n (c :: rest) = .error f := by
  simp [secondUnit, hslash, faultAfter]

theorem secondUnit_of_ne_u (hletter : c ≠ 'u') :
    ∃ f, secondUnit n ('\\' :: c :: rest) = .error f := by
  simp [secondUnit, hletter, faultAfter]

end Units

/-- No second half of a pair stands where a character is spelled, or where the string ends. -/
theorem secondUnit_of_symbols {symbols : List Symbol} {body : List Char}
    (h : SymbolsWritten symbols body) (hunit : ∀ m rest, symbols ≠ .unit m :: rest) (n : Nat)
    (rest : List Char) : ∃ f, secondUnit n (body ++ '"' :: rest) = .error f := by
  cases h with
  | nil => exact secondUnit_of_ne_slash (by decide)
  | cons hsymbol hsymbols =>
    cases hsymbol with
    | plain _ hslash => exact secondUnit_of_ne_slash hslash
    | short hletter => exact secondUnit_of_ne_u (ne_u_of_mem_shortForms hletter)
    | unit => exact absurd rfl (hunit _ _)

/-! ## Strings -/

/-- A spelled body is read as the text it has, and refused if it has none. -/
theorem readsBody_textOf (ahead : Nat) {symbols : List Symbol} {body : List Char}
    (h : SymbolsWritten symbols body) : ReadsBody escape ahead body (textOf symbols) := by
  fun_induction textOf symbols generalizing body with
  | case1 =>
    cases h
    exact .nil
  | case2 c symbols ih =>
    obtain _ | ⟨hsymbol, hsymbols⟩ := h
    cases hsymbol with
    | plain hquote hslash hcontrol => exact (ih hsymbols).plain hquote hslash hcontrol
    | short hletter => exact (ih hsymbols).escape [_] fun _ => escape_short hletter _
  | case3 n symbols hsingle ih =>
    obtain _ | ⟨hsymbol, hsymbols⟩ := h
    obtain ⟨a, b, c, d, rfl, hunit⟩ := hsymbol.hexUnit_eq_ok
    exact (ih hsymbols).escape ['u', a, b, c, d] fun rest =>
      escape_single (hunit _) hsingle
  | case4 n hsurrogate m symbols hpair ih =>
    obtain _ | ⟨hfirst, _ | ⟨hsecond, hsymbols⟩⟩ := h
    obtain ⟨a, b, c, d, rfl, hunit⟩ := hfirst.hexUnit_eq_ok
    obtain ⟨a', b', c', d', rfl, hunit'⟩ := hsecond.hexUnit_eq_ok
    have hleading := isLeadingSurrogate_iff.2 ⟨by omega, hpair.1⟩
    have htrailing := isTrailingSurrogate_iff.2 hpair.2
    have hnumber : (n - 0xD800) * 1024 + (m - 0xDC00) + 0x10000 =
        0x10000 + (n - 0xD800) * 0x400 + (m - 0xDC00) := by omega
    rw [← hnumber]
    exact (ih hsymbols).escape ['u', a, b, c, d, '\\', 'u', a', b', c', d'] fun rest =>
      escape_pair (hunit _) hleading (hunit' _) htrailing
  | case5 n hsurrogate m symbols hpair =>
    -- two numbers that are no pair, the first of which is half of one
    obtain _ | ⟨hfirst, _ | ⟨hsecond, hsymbols⟩⟩ := h
    obtain ⟨a, b, c, d, rfl, hunit⟩ := hfirst.hexUnit_eq_ok
    obtain ⟨a', b', c', d', rfl, hunit'⟩ := hsecond.hexUnit_eq_ok
    refine .refused fun rest => escape_half (hunit _) (by omega) fun hn =>
      secondUnit_of_not_trailing (hunit' _) ?_
    rw [isTrailingSurrogate_iff]
    exact fun hm => hpair ⟨hn, hm⟩
  | case6 n symbols hsurrogate hnone =>
    -- half of a pair with no number behind it
    obtain _ | ⟨hsymbol, hsymbols⟩ := h
    obtain ⟨a, b, c, d, rfl, hunit⟩ := hsymbol.hexUnit_eq_ok
    exact .refused fun rest => escape_half (hunit _) (by omega) fun _ =>
      secondUnit_of_symbols hsymbols hnone n rest

theorem looseEscape_short {letter c : Char} (h : (letter, c) ∈ shortForms) (cs : List Char) :
    looseEscape (letter :: cs) = .ok (c, 1) := by
  unfold looseEscape
  split
  · rename_i heq
    cases heq
  · rename_i heq
    exact absurd (List.cons.inj heq).1 (ne_u_of_mem_shortForms h)
  · rename_i heq
    obtain ⟨rfl, rfl⟩ := List.cons.inj heq
    rw [shortEscape_of_mem h]

/-- A spelled body is passed over whether it has a text or not. -/
theorem readsBody_loose (ahead : Nat) {symbols : List Symbol} {body : List Char}
    (h : SymbolsWritten symbols body) : ∃ ds, ReadsBody looseEscape ahead body (some ds) := by
  induction h with
  | nil => exact ⟨[], .nil⟩
  | cons hsymbol _ ih =>
    obtain ⟨ds, hread⟩ := ih
    cases hsymbol with
    | @plain c hquote hslash hcontrol => exact ⟨c :: ds, hread.plain hquote hslash hcontrol⟩
    | @short letter c hletter =>
      exact ⟨c :: ds, hread.escape [letter] fun _ => looseEscape_short hletter _⟩
    | @unit a b c d _ _ _ _ ha hb hc hd =>
      refine ⟨'u' :: ds, hread.escape ['u', a, b, c, d] fun rest => ?_⟩
      have hunit := hexUnit_eq_ok ha hb hc hd
      simp [looseEscape, hunit]

/-- Behind its opening quote, a string is read as its text and passed over. -/
theorem StringWritten.body {s : Option String} {cs : List Char} (h : StringWritten s cs) :
    ∃ body, cs = '"' :: body ∧ ∀ rest,
      (readBody (body ++ rest)).toOption = s.map (·, rest) ∧
        skipBody (body ++ rest) = .ok rest := by
  obtain ⟨symbols, body, hsymbols, rfl, rfl⟩ := h
  refine ⟨body ++ ['"'], rfl, fun rest => ⟨?_, ?_⟩⟩
  · have hread := readsBody_textOf 1 hsymbols rest
    have hmap : readBody (body ++ '"' :: rest) =
        (scanBody escape 1 0 (body ++ '"' :: rest)).map
          fun (ds, rest) => (String.ofList ds, rest) := by
      unfold readBody
      cases scanBody escape 1 0 (body ++ '"' :: rest) <;> rfl
    rw [List.append_assoc, List.singleton_append, hmap, toOption_map, hread]
    cases textOf symbols <;> rfl
  · obtain ⟨ds, hread⟩ := readsBody_loose 0 hsymbols
    unfold skipBody
    rw [List.append_assoc, List.singleton_append, eq_ok_iff_toOption.2 (hread rest)]

end ImageBuild.Json
