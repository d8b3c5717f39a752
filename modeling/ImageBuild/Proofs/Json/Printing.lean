import Mathlib.Data.List.Forall2
import ImageBuild.Json.Printer
import ImageBuild.Proofs.Json.Grammar

/-!
# What is written

The compact forms of strings, natural numbers, truth values, lists and objects are among the
spellings of these values.
-/

namespace ImageBuild.Json

/-! ## Strings -/

theorem isHexDigit_digitChar {n : Nat} (h : n < 16) : IsHexDigit (Nat.digitChar n) n :=
  ⟨h, Or.inl rfl⟩

theorem controlEscape_eq {c : Char} (h : c.toNat < 32) :
    controlEscape c =
      ['\\', 'u', '0', '0', Nat.digitChar (c.toNat / 16), Nat.digitChar (c.toNat % 16)] := by
  have hdigits : ∀ n < 32, List.replicate (4 - (Text.hexDigits n).length) '0' ++ Text.hexDigits n =
      ['0', '0', Nat.digitChar (n / 16), Nat.digitChar (n % 16)] := by decide
  unfold controlEscape
  dsimp only
  rw [hdigits c.toNat h]

/-- Some characters that a symbol spells which stands for a character. -/
def Spells (c : Char) (cs : List Char) : Prop :=
  ∃ symbol : Symbol, symbol.Written cs ∧
    ∀ symbols, textOf (symbol :: symbols) = (textOf symbols).map (c :: ·)

theorem spells_short {letter c : Char} (h : (letter, c) ∈ shortForms) : Spells c ['\\', letter] :=
  ⟨.char c, .short h, fun _ => rfl⟩

theorem spells_controlEscape {c : Char} (h : c.toNat < 32) : Spells c (controlEscape c) := by
  have hwritten : Symbol.Written
      (.unit (((0 * 16 + 0) * 16 + c.toNat / 16) * 16 + c.toNat % 16)) (controlEscape c) := by
    rw [controlEscape_eq h]
    have hzero : IsHexDigit '0' 0 := isHexDigit_digitChar (by decide)
    exact .unit hzero hzero (isHexDigit_digitChar (by omega)) (isHexDigit_digitChar (by omega))
  have hnumber : ((0 * 16 + 0) * 16 + c.toNat / 16) * 16 + c.toNat % 16 = c.toNat := by omega
  rw [hnumber] at hwritten
  refine ⟨_, hwritten, fun symbols => ?_⟩
  rw [textOf.eq_def]
  dsimp only
  rw [if_pos (Or.inl (by omega)), Char.ofNat_toNat]

theorem spells_writtenChar (c : Char) : Spells c (writtenChar c) := by
  have hforms : ∀ form ∈ shortForms, form.1 ≠ '/' → writtenChar form.2 = ['\\', form.1] := by decide
  by_cases hshort : ∃ letter, (letter, c) ∈ shortForms ∧ letter ≠ '/'
  · obtain ⟨letter, hmem, hslash⟩ := hshort
    rw [hforms (letter, c) hmem hslash]
    exact spells_short hmem
  · have hne : ∀ letter d, (letter, d) ∈ shortForms → letter ≠ '/' → c ≠ d := by
      rintro letter d hmem hslash rfl
      exact hshort ⟨letter, hmem, hslash⟩
    have hquote := hne '"' '"' (by decide) (by decide)
    have hslash := hne '\\' '\\' (by decide) (by decide)
    rw [writtenChar, if_neg hquote, if_neg hslash, if_neg (hne 'b' _ (by decide) (by decide)),
      if_neg (hne 'f' _ (by decide) (by decide)), if_neg (hne 'n' _ (by decide) (by decide)),
      if_neg (hne 'r' _ (by decide) (by decide)), if_neg (hne 't' _ (by decide) (by decide))]
    split
    · rename_i hcontrol
      exact spells_controlEscape hcontrol
    · rename_i hcontrol
      exact ⟨.char c, .plain hquote hslash (Nat.le_of_not_lt hcontrol), fun _ => rfl⟩

theorem stringWritten_writtenText (s : String) : StringWritten (some s) (writtenText s) := by
  have hbody : ∀ cs : List Char, ∃ symbols, SymbolsWritten symbols (cs.flatMap writtenChar) ∧
      textOf symbols = some cs := by
    intro cs
    induction cs with
    | nil => exact ⟨[], .nil, rfl⟩
    | cons c cs ih =>
      obtain ⟨symbols, hsymbols, htext⟩ := ih
      obtain ⟨symbol, hsymbol, hcons⟩ := spells_writtenChar c
      exact ⟨symbol :: symbols, .cons hsymbol hsymbols, by rw [hcons, htext]; rfl⟩
  obtain ⟨symbols, hsymbols, htext⟩ := hbody s.toList
  exact ⟨symbols, _, hsymbols, by simp [htext], rfl⟩

/-! ## Numbers -/

theorem ofDigitChars_toDigits_eq_zero {n : Nat} (h : Nat.toDigits 10 n = ['0']) : n = 0 := by
  have hvalue := congrArg (Nat.ofDigitChars 10 · 0) h
  rwa [Nat.ofDigitChars_ten_toDigits] at hvalue

theorem isNatural_writtenNatural (n : Nat) : IsNatural (writtenNatural n) := by
  unfold writtenNatural
  refine ⟨⟨Nat.toDigits_ne_nil, fun c hc => Nat.isDigit_of_mem_toDigits (by decide) (by decide) hc⟩,
    ?_⟩
  induction n using Nat.strongRecOn with
  | ind n ih =>
    intro hhead
    rcases Nat.lt_or_ge n 10 with hn | hn
    · rw [Nat.toDigits_of_lt_base hn] at hhead ⊢
      rw [Option.some.inj hhead]
    · rw [Nat.toDigits_of_base_le (by decide) hn,
        List.head?_append, List.head?_eq_some_head Nat.toDigits_ne_nil, Option.some_or,
        ← List.head?_eq_some_head Nat.toDigits_ne_nil] at hhead
      have hzero := ofDigitChars_toDigits_eq_zero (ih (n / 10) (by omega) hhead)
      omega

theorem isNumber_writtenNatural (n : Nat) : IsNumber (writtenNatural n) :=
  Or.inl ⟨_, [], [], isNatural_writtenNatural n, .none, .none, by simp⟩

/-! ## Lists and objects -/

/-- What follows a written item: the others behind a comma, and the closing bracket. -/
def behindItem (close : Char) : List (List Char) → List Char
  | [] => [close]
  | items => ',' :: (separated items ++ [close])

theorem separated_cons (close : Char) (item : List Char) (items : List (List Char)) :
    separated (item :: items) ++ [close] = item ++ behindItem close items := by
  cases items with
  | nil => rfl
  | cons next items => simp [separated, behindItem]

theorem separates_comma : Separates false [','] :=
  .comma blanks_nil blanks_nil

theorem separates_nothing : Separates true [] := .first blanks_nil

/-- Written items are a list of the values that they write. -/
theorem written_list {vs : List Value} {items : List (List Char)}
    (h : List.Forall₂ (fun v cs => Part.Written (.value v) cs) vs items) :
    Part.Written (.value (.list vs)) (writtenList items) := by
  have hbehind : ∀ {vs items}, List.Forall₂ (fun v cs => Part.Written (.value v) cs) vs items →
      Part.Written (.items false vs) (behindItem ']' items) := by
    intro vs items h
    induction h with
    | nil => exact .endItems blanks_nil
    | @cons v item vs items hitem _ ih =>
      rw [behindItem, separated_cons]
      · exact .item separates_comma hitem ih
      · nofun
  cases h with
  | nil => exact .list (.endItems blanks_nil)
  | @cons v item vs items hitem hitems =>
    rw [writtenList, separated_cons]
    exact .list (.item separates_nothing hitem (hbehind hitems))

/-- Written members are an object of the values that they write. -/
theorem written_object {ms : List (Option String × Value)} {members : List (String × List Char)}
    (h : List.Forall₂ (fun m member => m.1 = some member.1 ∧ Part.Written (.value m.2) member.2)
      ms members) :
    Part.Written (.value (.object ms)) (writtenObject members) := by
  have hmember : ∀ {first before ms name v cs ds}, Separates first before →
      Part.Written (.value v) cs → Part.Written (.members false ms) ds →
        Part.Written (.members first ((some name, v) :: ms))
          (before ++ ((writtenText name ++ ':' :: cs) ++ ds)) := by
    intro first before ms name v cs ds hbefore hvalue hmembers
    have hwritten := Part.Written.member hbefore (stringWritten_writtenText name) blanks_nil
      blanks_nil hvalue hmembers
    simpa using hwritten
  have hbehind : ∀ {ms : List (Option String × Value)} {members : List (String × List Char)},
      List.Forall₂ (fun m member => m.1 = some member.1 ∧ Part.Written (.value m.2) member.2)
        ms members →
      Part.Written (.members false ms)
        (behindItem '\x7d'
          (members.map fun member => writtenText member.1 ++ ':' :: member.2)) := by
    intro ms members h
    induction h with
    | nil => exact .endMembers blanks_nil
    | @cons m member ms members hfirst _ ih =>
      obtain ⟨_, v⟩ := m
      obtain ⟨rfl, hvalue⟩ := hfirst
      rw [List.map_cons, behindItem, separated_cons]
      · exact hmember separates_comma hvalue ih
      · nofun
  cases h with
  | nil => exact .object (.endMembers blanks_nil)
  | @cons m member ms members hfirst hrest =>
    obtain ⟨_, v⟩ := m
    obtain ⟨rfl, hvalue⟩ := hfirst
    rw [writtenObject, List.map_cons, separated_cons]
    exact .object (hmember separates_nothing hvalue (hbehind hrest))

end ImageBuild.Json
