import Mathlib.Data.List.Forall2
import ImageBuild.Json.Record
import ImageBuild.Proofs.Json.Skipping

/-!
# Reading values of a given type

What a reader accepts, and as what (`Reads`): strings, truth values, words of 32 bits
(`reads_text`, `reads_boolean`, `reads_word32`) and lists (`reads_list`).
-/

namespace ImageBuild.Json

variable {α β : Type}

/-- A reader passes over white space and reads the values that mean something, up to their end. -/
structure Reads (read : List Char → Reading α) (Means : Value → α → Prop) : Prop where
  blanks : ∀ before cs, Blanks before → read (before ++ cs) = read cs
  eq_ok_iff : ∀ v cs, Part.Written (.value v) cs → ∀ rest, Delimits rest → ∀ x rest',
    read (cs ++ rest) = .ok (x, rest') ↔ Means v x ∧ rest' = rest

/-- Strings that have a text. -/
def IsText (v : Value) (s : String) : Prop := v = .text (some s)

def IsBoolean (v : Value) (b : Bool) : Prop := v = .boolean b

/-- Numbers that are written in digits alone. -/
def IsWord32 (v : Value) (w : UInt32) : Prop :=
  ∃ digits, v = .number digits ∧ (∀ c ∈ digits, c.isDigit = true) ∧
    Nat.ofDigitChars 10 digits 0 = w.toNat

/-- Lists by what their items mean. -/
def IsList (Means : Value → α → Prop) (v : Value) (xs : List α) : Prop :=
  ∃ vs, v = .list vs ∧ List.Forall₂ Means vs xs

/-! ## Results -/

theorem bind_eq_ok_iff {reading : Except Fault α} {next : α → Except Fault β} {y : β} :
    (reading >>= next) = .ok y ↔ ∃ x, reading = .ok x ∧ next x = .ok y := by
  cases reading <;> simp [bind, Except.bind]

theorem map_eq_ok_iff {reading : Except Fault α} {f : α → β} {y : β} :
    reading.map f = .ok y ↔ ∃ x, reading = .ok x ∧ f x = y := by
  cases reading <;> simp [Except.map]

theorem bind_ne_ok {reading : Except Fault α} {f : α → Except Fault β} {y : β}
    (h : ∀ x, f x ≠ .ok y) : (reading >>= f) ≠ .ok y := by
  intro hbind
  obtain ⟨x, -, hx⟩ := bind_eq_ok_iff.1 hbind
  exact h x hx

/-- A value of the wrong type is a fault, whatever it is. -/
theorem unexpected_ne_ok (expected : String) (cs : List Char) (x : α) :
    unexpected expected cs ≠ .ok x := by
  have hfault : ∀ kind cs, (faultAt kind cs : Except Fault α) ≠ .ok x := fun _ _ => nofun
  cases cs with
  | nil => nofun
  | cons c cs =>
    unfold unexpected
    dsimp only
    split_ifs
    -- words, numbers and strings are read before they are refused
    · exact bind_ne_ok fun _ => hfault _ _
    · exact bind_ne_ok fun _ => hfault _ _
    · exact bind_ne_ok fun _ => hfault _ _
    · exact bind_ne_ok fun _ => hfault _ _
    · exact bind_ne_ok fun _ => hfault _ _
    · exact bind_ne_ok fun _ => hfault _ _
    -- of a list or an object, the bracket is enough
    · exact hfault _ _
    · exact hfault _ _
    · nofun

/-! ## Which value begins with a character -/

namespace Value

variable {v : Value}

theorem eq_text_of_begins (h : v.begins '"') : ∃ s, v = .text s := by
  cases v with
  | text s => exact ⟨s, rfl⟩
  | boolean b => cases b <;> simp [begins] at h
  | _ => simp [begins] at h

theorem eq_list_of_begins (h : v.begins '[') : ∃ vs, v = .list vs := by
  cases v with
  | list vs => exact ⟨vs, rfl⟩
  | boolean b => cases b <;> simp [begins] at h
  | _ => simp [begins] at h

theorem eq_object_of_begins (h : v.begins '\x7b') : ∃ ms, v = .object ms := by
  cases v with
  | object ms => exact ⟨ms, rfl⟩
  | boolean b => cases b <;> simp [begins] at h
  | _ => simp [begins] at h

theorem eq_boolean_of_begins {c : Char} (h : v.begins c) (hc : c = 't' ∨ c = 'f') :
    ∃ b, v = .boolean b := by
  cases v with
  | boolean b => exact ⟨b, rfl⟩
  | number =>
    rcases hc with rfl | rfl <;> simp [begins] at h
  | null | text | list | object =>
    obtain rfl := h
    simp at hc

theorem eq_number_of_begins {c : Char} (h : v.begins c) (hc : c = '-' ∨ c.isDigit = true) :
    ∃ digits, v = .number digits := by
  cases v with
  | number digits => exact ⟨digits, rfl⟩
  | boolean b =>
    obtain rfl := h
    cases b <;> simp at hc
  | null | text | list | object =>
    obtain rfl := h
    simp at hc

end Value

/-! ## Scalars -/

theorem reads_text : Reads readText IsText where
  blanks before cs hbefore := by rw [readText, readText, skipBlanks_append hbefore]
  eq_ok_iff v cs h rest hrest s rest' := by
    obtain ⟨c, cs', rfl, hc⟩ := h.head
    rw [readText, List.cons_append,
      skipBlanks_cons (isJsonBlank_of_not_delimiter hc.not_delimiter)]
    dsimp only
    split
    · rename_i hquote
      subst hquote
      obtain ⟨text, rfl⟩ := Value.eq_text_of_begins hc
      cases h with
      | text htext =>
        obtain ⟨body, heq, hbody⟩ := htext.body
        obtain rfl : cs' = body := (List.cons.inj heq).2
        rw [eq_ok_iff_toOption, (hbody rest).1, IsText]
        cases text <;> simp [eq_comm]
    · rename_i hquote
      refine iff_of_false (unexpected_ne_ok _ _ _) ?_
      rintro ⟨rfl, -⟩
      exact hquote hc

theorem reads_boolean : Reads readBoolean IsBoolean where
  blanks before cs hbefore := by rw [readBoolean, readBoolean, skipBlanks_append hbefore]
  eq_ok_iff v cs h rest hrest b rest' := by
    obtain ⟨c, cs', rfl, hc⟩ := h.head
    by_cases hword : c = 't' ∨ c = 'f'
    · obtain ⟨b', rfl⟩ := Value.eq_boolean_of_begins hc hword
      have hread : readBoolean (c :: cs' ++ rest) = .ok (b', rest) := by cases h <;> rfl
      rw [hread, IsBoolean]
      simp [eq_comm]
    · obtain ⟨htrue, hfalse⟩ := not_or.1 hword
      rw [readBoolean, List.cons_append,
        skipBlanks_cons (isJsonBlank_of_not_delimiter hc.not_delimiter)]
      dsimp only
      rw [if_neg htrue, if_neg hfalse]
      refine iff_of_false (unexpected_ne_ok _ _ _) ?_
      rintro ⟨rfl, -⟩
      cases b with
      | true => exact htrue hc
      | false => exact hfalse hc

theorem IsWord32.begins {v : Value} {w : UInt32} {c : Char} (h : IsWord32 v w) (hc : v.begins c) :
    c = '-' ∨ c.isDigit = true := by
  obtain ⟨digits, rfl, -⟩ := h
  exact hc

theorem readUnsigned_word32_eq_ok_iff {sign : Bool} {cs rest : List Char} {w : UInt32} :
    (do
      let (n, rest) ← (readUnsigned sign cs : Except Fault (Number × List Char))
      word32 "u32" n rest : Except Fault (UInt32 × List Char)) = .ok (w, rest) ↔
      readUnsigned sign cs = .ok (.natural w.toNat, rest) := by
  rw [bind_eq_ok_iff]
  constructor
  · rintro ⟨⟨n, rest'⟩, hread, hword⟩
    obtain ⟨rfl, rfl⟩ := word32_eq_ok_iff.1 hword
    exact hread
  · exact fun hread => ⟨_, hread, word32_eq_ok_iff.2 ⟨rfl, rfl⟩⟩

theorem IsNumber.of_minus {cs : List Char} (h : IsNumber ('-' :: cs)) : IsMagnitude cs := by
  rcases h with ⟨digits, _, _, hdigits, -, -, heq⟩ | ⟨magnitude, hmagnitude, heq⟩
  · obtain ⟨c, rest, rfl, hc⟩ := hdigits.head
    obtain rfl : '-' = c := (List.cons.inj heq).1
    cases hc
  · obtain rfl : cs = magnitude := (List.cons.inj heq).2
    exact hmagnitude

theorem IsNumber.of_digit {c : Char} {cs : List Char} (h : IsNumber (c :: cs))
    (hc : c.isDigit = true) : IsMagnitude (c :: cs) := by
  rcases h with hmagnitude | ⟨magnitude, -, heq⟩
  · exact hmagnitude
  · obtain rfl : c = '-' := (List.cons.inj heq).1
    cases hc

theorem reads_word32 : Reads readWord32 IsWord32 where
  blanks before cs hbefore := by rw [readWord32, readWord32, skipBlanks_append hbefore]
  eq_ok_iff v cs h rest hrest w rest' := by
    obtain ⟨c, cs', rfl, hc⟩ := h.head
    rw [readWord32, List.cons_append,
      skipBlanks_cons (isJsonBlank_of_not_delimiter hc.not_delimiter)]
    dsimp only
    split
    · rename_i hminus
      subst hminus
      obtain ⟨digits, rfl⟩ := Value.eq_number_of_begins hc (Or.inl rfl)
      cases h with
      | number hnumber =>
        refine iff_of_false ?_ ?_
        · rw [readUnsigned_word32_eq_ok_iff]
          exact notNatural_readUnsigned_negative hnumber.of_minus hrest _ _
        · rintro ⟨⟨_, hdigits, hall, -⟩, -⟩
          obtain rfl := Value.number.inj hdigits
          cases hall '-' List.mem_cons_self
    · split
      · rename_i hminus hdigit
        obtain ⟨digits, rfl⟩ := Value.eq_number_of_begins hc (Or.inr hdigit)
        cases h with
        | number hnumber =>
          have hfits : w.toNat ≤ significandLimit :=
            Nat.le_trans (Nat.le_of_lt w.toNat_lt) (by decide)
          rw [← List.cons_append, readUnsigned_word32_eq_ok_iff,
            readUnsigned_eq_natural_iff (hnumber.of_digit hdigit) hrest hfits]
          simp [IsWord32, and_assoc]
      · rename_i hminus hdigit
        refine iff_of_false (unexpected_ne_ok _ _ _) ?_
        rintro ⟨hword, -⟩
        exact (hword.begins hc).elim hminus hdigit

/-! ## Lists -/

theorem nextItem_end {before : List Char} (h : Blanks before) (first : Bool) (rest : List Char) :
    nextItem first (before ++ ']' :: rest) = .ok (false, ']' :: rest) := by
  rw [nextItem, skipBlanks_append h, skipBlanks_cons rfl]
  rfl

theorem nextItem_item {before : List Char} {first : Bool} (h : Separates first before) {c : Char}
    (hc : isDelimiter c = false) (cs : List Char) :
    nextItem first (before ++ c :: cs) = .ok (true, c :: cs) := by
  have hblank := isJsonBlank_of_not_delimiter hc
  have hclose : c ≠ ']' := by
    rintro rfl
    cases hc
  cases h with
  | first hbefore =>
    rw [nextItem, skipBlanks_append hbefore, skipBlanks_cons hblank]
    simp [hclose]
  | comma hbefore hafter =>
    rw [nextItem, List.append_assoc, skipBlanks_append hbefore, List.cons_append,
      skipBlanks_cons rfl]
    simp [skipBlanks_append hafter, skipBlanks_cons hblank, hclose]

theorem endList_end {before : List Char} (h : Blanks before) (rest : List Char) :
    endList (before ++ ']' :: rest) = .ok rest := by
  rw [endList, skipBlanks_append h, skipBlanks_cons rfl]
  rfl

theorem length_lt_of_written_items {first : Bool} {vs : List Value} {cs : List Char}
    (h : Part.Written (.items first vs) cs) : vs.length < cs.length := by
  induction vs generalizing first cs with
  | nil =>
    cases h
    simp
  | cons v vs ih =>
    cases h with
    | item _ hvalue hitems =>
      obtain ⟨c, cs', rfl, -⟩ := hvalue.head
      have hlt := ih hitems
      simp only [List.length_append, List.length_cons]
      omega

theorem readItems_succ_eq_ok_iff {item : List Char → Reading α} {fuel : Nat} {first : Bool}
    {cs rest : List Char} {xs : List α} (hnext : nextItem first cs = .ok (true, rest))
    {rest' : List Char} :
    readItems item (fuel + 1) first cs = .ok (xs, rest') ↔
      ∃ x behind xs', item rest = .ok (x, behind) ∧
        readItems item fuel false behind = .ok (xs', rest') ∧ xs = x :: xs' := by
  constructor
  · intro h
    rw [readItems, hnext] at h
    dsimp only at h
    split at h
    · cases h
    · rename_i x behind hitem
      split at h
      · cases h
      · rename_i xs' rest'' hitems
        obtain ⟨rfl, rfl⟩ := Prod.mk.inj (Except.ok.inj h)
        exact ⟨x, behind, xs', hitem, hitems, rfl⟩
  · rintro ⟨x, behind, xs', hitem, hitems, rfl⟩
    rw [readItems, hnext]
    simp [hitem, hitems]

theorem readItems_eq_ok_iff {item : List Char → Reading α} {Means : Value → α → Prop}
    (hitem : Reads item Means) {first : Bool} {vs : List Value} {cs : List Char}
    (h : Part.Written (.items first vs) cs) {fuel : Nat} (hfuel : vs.length < fuel)
    {xs : List α} {rest rest' : List Char} :
    readItems item fuel first (cs ++ rest) = .ok (xs, rest') ↔
      List.Forall₂ Means vs xs ∧ rest' = ']' :: rest := by
  induction vs generalizing first cs fuel xs with
  | nil =>
    obtain ⟨fuel, rfl⟩ := Nat.exists_eq_succ_of_ne_zero (Nat.ne_of_gt hfuel)
    cases h with
    | endItems hbefore =>
      rw [List.append_assoc, List.singleton_append, readItems, nextItem_end hbefore]
      simp [eq_comm]
  | cons v vs ih =>
    obtain ⟨fuel, rfl⟩ := Nat.exists_eq_succ_of_ne_zero (Nat.ne_of_gt (Nat.zero_lt_of_lt hfuel))
    cases h with
    | @item _ _ _ before front behind hbefore hvalue hitems =>
      have hnext : nextItem first (before ++ (front ++ behind) ++ rest) =
          .ok (true, front ++ (behind ++ rest)) := by
        obtain ⟨c, front', rfl, hc⟩ := hvalue.head
        simpa using nextItem_item hbefore hc.not_delimiter (front' ++ (behind ++ rest))
      rw [readItems_succ_eq_ok_iff hnext]
      simp only [hitem.eq_ok_iff v front hvalue _ (hitems.delimits rfl rest)]
      have hlt : vs.length < fuel := Nat.lt_of_succ_lt_succ hfuel
      constructor
      · rintro ⟨x, _, xs', ⟨hx, rfl⟩, hread, rfl⟩
        obtain ⟨hxs, rfl⟩ := (ih hitems hlt).1 hread
        exact ⟨.cons hx hxs, rfl⟩
      · rintro ⟨hall, rfl⟩
        cases hall with
        | cons hx hxs => exact ⟨_, _, _, ⟨hx, rfl⟩, (ih hitems hlt).2 ⟨hxs, rfl⟩, rfl⟩

theorem reads_list {item : List Char → Reading α} {Means : Value → α → Prop}
    (hitem : Reads item Means) : Reads (readList item) (IsList Means) where
  blanks before cs hbefore := by rw [readList, readList, skipBlanks_append hbefore]
  eq_ok_iff v cs h rest hrest xs rest' := by
    obtain ⟨c, cs', rfl, hc⟩ := h.head
    rw [readList, List.cons_append,
      skipBlanks_cons (isJsonBlank_of_not_delimiter hc.not_delimiter)]
    dsimp only
    split
    · rename_i hopen
      subst hopen
      obtain ⟨vs, rfl⟩ := Value.eq_list_of_begins hc
      cases h with
      | list hitems =>
        have hfuel : vs.length < (cs' ++ rest).length + 1 := by
          have hlt := length_lt_of_written_items hitems
          rw [List.length_append]
          omega
        have hread := @readItems_eq_ok_iff _ _ _ hitem _ _ _ hitems _ hfuel
        have hend : endList (']' :: rest) = .ok rest := endList_end blanks_nil rest
        constructor
        · intro h
          split at h
          · cases h
          · rename_i ys behind hitems'
            obtain ⟨hmeans, rfl⟩ := hread.1 hitems'
            rw [hend] at h
            obtain ⟨rfl, rfl⟩ := Prod.mk.inj (Except.ok.inj h)
            exact ⟨⟨vs, rfl, hmeans⟩, rfl⟩
        · rintro ⟨⟨_, hvs, hmeans⟩, rfl⟩
          obtain rfl := Value.list.inj hvs
          rw [hread.2 ⟨hmeans, rfl⟩]
          simp only [hend]
    · rename_i hopen
      refine iff_of_false (unexpected_ne_ok _ _ _) ?_
      rintro ⟨⟨vs, rfl, -⟩, -⟩
      exact hopen hc

end ImageBuild.Json
