import ImageBuild.Json.Skip

/-!
# The grammar of documents

Which characters write which value (`Part.Written`). White space may stand between all tokens, a
character of a string has many spellings, and an object may name a member twice. An escape can write
half of a character; a string in which one stands alone has no text (`textOf`).
-/

namespace ImageBuild.Json

/-! ## Strings -/

/-- What a spelling within a string stands for: a character, or a number of 16 bits. -/
inductive Symbol
  | char (c : Char)
  | unit (n : Nat)

/-- The letters of the short escapes and what they stand for. -/
def shortForms : List (Char × Char) :=
  [('"', '"'), ('\\', '\\'), ('/', '/'), ('b', '\x08'), ('f', '\x0c'), ('n', '\n'), ('r', '\r'),
    ('t', '\t')]

/-- A hexadecimal digit of either case. -/
def IsHexDigit (c : Char) (n : Nat) : Prop :=
  n < 16 ∧ (c = Nat.digitChar n ∨ c = (Nat.digitChar n).toUpper)

/-- The spellings of a symbol. -/
inductive Symbol.Written : Symbol → List Char → Prop
  | plain {c : Char} : c ≠ '"' → c ≠ '\\' → 32 ≤ c.toNat → Written (.char c) [c]
  | short {letter c : Char} : (letter, c) ∈ shortForms → Written (.char c) ['\\', letter]
  | unit {a b c d : Char} {i j k l : Nat} : IsHexDigit a i → IsHexDigit b j → IsHexDigit c k →
      IsHexDigit d l → Written (.unit (((i * 16 + j) * 16 + k) * 16 + l)) ['\\', 'u', a, b, c, d]

/-- The spellings of some symbols, one after the other. -/
inductive SymbolsWritten : List Symbol → List Char → Prop
  | nil : SymbolsWritten [] []
  | cons {symbol : Symbol} {symbols : List Symbol} {front cs : List Char} :
      symbol.Written front → SymbolsWritten symbols cs →
        SymbolsWritten (symbol :: symbols) (front ++ cs)

/-- The text of some symbols. The numbers from D800 on, up to DBFF, begin a pair, and those from
DC00 on, up to DFFF, end one. -/
def textOf : List Symbol → Option (List Char)
  | [] => some []
  | .char c :: symbols => (textOf symbols).map (c :: ·)
  | .unit n :: symbols =>
    if n < 0xD800 ∨ 0xDFFF < n then (textOf symbols).map (Char.ofNat n :: ·)
    else
      match symbols with
      | .unit m :: symbols =>
        if n < 0xDC00 ∧ 0xDC00 ≤ m ∧ m ≤ 0xDFFF then
          (textOf symbols).map (Char.ofNat (0x10000 + (n - 0xD800) * 0x400 + (m - 0xDC00)) :: ·)
        else none
      | _ => none

/-- A string between its quotes, and its text if it has one. -/
def StringWritten (s : Option String) (cs : List Char) : Prop :=
  ∃ symbols body, SymbolsWritten symbols body ∧ s = (textOf symbols).map String.ofList ∧
    cs = '"' :: (body ++ ['"'])

/-! ## Numbers -/

/-- At least one digit, and nothing else. -/
def IsDigits (cs : List Char) : Prop := cs ≠ [] ∧ ∀ c ∈ cs, c.isDigit = true

/-- Digits without a needless zero in front. -/
def IsNatural (cs : List Char) : Prop := IsDigits cs ∧ (cs.head? = some '0' → cs = ['0'])

/-- The fraction of a number, if there is one. -/
inductive IsFraction : List Char → Prop
  | none : IsFraction []
  | some {digits : List Char} : IsDigits digits → IsFraction ('.' :: digits)

/-- The exponent of a number, if there is one. -/
inductive IsExponent : List Char → Prop
  | none : IsExponent []
  | some {letter : Char} {sign digits : List Char} : letter = 'e' ∨ letter = 'E' →
      sign = [] ∨ sign = ['+'] ∨ sign = ['-'] → IsDigits digits →
        IsExponent (letter :: (sign ++ digits))

/-- A number without its sign. -/
def IsMagnitude (cs : List Char) : Prop :=
  ∃ digits fraction exponent, IsNatural digits ∧ IsFraction fraction ∧ IsExponent exponent ∧
    cs = digits ++ (fraction ++ exponent)

def IsNumber (cs : List Char) : Prop :=
  IsMagnitude cs ∨ ∃ magnitude, IsMagnitude magnitude ∧ cs = '-' :: magnitude

/-! ## Values -/

/-- A value of a document. A number keeps its spelling; strings and names that have no text are
`none`. -/
inductive Value
  | null
  | boolean (b : Bool)
  | number (digits : List Char)
  | text (s : Option String)
  | list (items : List Value)
  | object (members : List (Option String × Value))

/-- The parts of which documents are made: a value, or what follows some items or members of a
list or an object, up to its closing bracket. -/
inductive Part
  | value (v : Value)
  | items (first : Bool) (vs : List Value)
  | members (first : Bool) (ms : List (Option String × Value))

/-- What follows an item or a member. -/
def Part.follows : Part → Prop
  | .value _ => False
  | .items first _ | .members first _ => first = false

def Blanks (cs : List Char) : Prop := ∀ c ∈ cs, isJsonBlank c = true

/-- What stands in front of an item or a member: a comma, unless it is the first one. -/
inductive Separates : Bool → List Char → Prop
  | first {before : List Char} : Blanks before → Separates true before
  | comma {before after : List Char} : Blanks before → Blanks after →
      Separates false (before ++ ',' :: after)

/-- The characters that write a part. -/
inductive Part.Written : Part → List Char → Prop
  | null : Written (.value .null) ['n', 'u', 'l', 'l']
  | true : Written (.value (.boolean .true)) ['t', 'r', 'u', 'e']
  | false : Written (.value (.boolean .false)) ['f', 'a', 'l', 's', 'e']
  | number {digits : List Char} : IsNumber digits → Written (.value (.number digits)) digits
  | text {s : Option String} {cs : List Char} : StringWritten s cs → Written (.value (.text s)) cs
  | list {vs : List Value} {cs : List Char} : Written (.items .true vs) cs →
      Written (.value (.list vs)) ('[' :: cs)
  | object {ms : List (Option String × Value)} {cs : List Char} : Written (.members .true ms) cs →
      Written (.value (.object ms)) ('\x7b' :: cs)
  | endItems {first : Bool} {before : List Char} : Blanks before →
      Written (.items first []) (before ++ [']'])
  | item {first : Bool} {v : Value} {vs : List Value} {before cs ds : List Char} :
      Separates first before → Written (.value v) cs → Written (.items .false vs) ds →
        Written (.items first (v :: vs)) (before ++ (cs ++ ds))
  | endMembers {first : Bool} {before : List Char} : Blanks before →
      Written (.members first []) (before ++ ['\x7d'])
  | member {first : Bool} {name : Option String} {v : Value} {ms : List (Option String × Value)}
      {before key gap after cs ds : List Char} :
      Separates first before → StringWritten name key → Blanks gap → Blanks after →
        Written (.value v) cs → Written (.members .false ms) ds →
          Written (.members first ((name, v) :: ms))
            (before ++ (key ++ (gap ++ ':' :: (after ++ (cs ++ ds)))))

/-- A document that holds a value and nothing else. -/
def Value.WrittenIn (v : Value) (document : List Char) : Prop :=
  ∃ before cs after, Blanks before ∧ Part.Written (.value v) cs ∧ Blanks after ∧
    document = before ++ (cs ++ after)

/-! ## First and next characters -/

theorem skipBlanks_append {before : List Char} (h : Blanks before) (cs : List Char) :
    skipBlanks (before ++ cs) = skipBlanks cs :=
  List.dropWhile_append_of_pos h

theorem skipBlanks_cons {c : Char} (h : isJsonBlank c = false) (cs : List Char) :
    skipBlanks (c :: cs) = c :: cs := by
  unfold skipBlanks
  rw [List.dropWhile_cons_of_neg (by simp [h])]

/-- The first characters of the spellings of a value. -/
def Value.begins : Value → Char → Prop
  | .null, c => c = 'n'
  | .boolean b, c => c = if b then 't' else 'f'
  | .number _, c => c = '-' ∨ c.isDigit = true
  | .text _, c => c = '"'
  | .list _, c => c = '['
  | .object _, c => c = '\x7b'

/-- A character that ends a value: white space, a comma or a closing bracket. -/
def isDelimiter (c : Char) : Bool :=
  isJsonBlank c || c == ',' || c == ']' || c == '\x7d'

/-- What can follow a value. -/
def Delimits (cs : List Char) : Prop := ∀ c ∈ cs.head?, isDelimiter c = true

theorem isDelimiter_iff {c : Char} : isDelimiter c = true ↔
    c = ' ' ∨ c = '\n' ∨ c = '\t' ∨ c = '\r' ∨ c = ',' ∨ c = ']' ∨ c = '\x7d' := by
  simp only [isDelimiter, isJsonBlank, Bool.or_eq_true, beq_iff_eq, or_assoc]

theorem blanks_nil : Blanks [] := nofun

theorem Delimits.nil : Delimits [] := nofun

theorem Delimits.cons {c : Char} {cs : List Char} (h : isDelimiter c = true) :
    Delimits (c :: cs) := by
  rintro _ ⟨⟩
  exact h

theorem Delimits.of_blanks {before cs : List Char} (hbefore : Blanks before) (h : Delimits cs) :
    Delimits (before ++ cs) := by
  cases before with
  | nil => exact h
  | cons c before =>
    have hblank := hbefore c List.mem_cons_self
    exact .cons (by simp [isDelimiter, hblank])

theorem isDelimiter_of_isDigit {c : Char} (h : c.isDigit = true) : isDelimiter c = false := by
  rw [Bool.eq_false_iff, ne_eq, isDelimiter_iff]
  rintro (rfl | rfl | rfl | rfl | rfl | rfl | rfl) <;> cases h

theorem Value.begins.not_delimiter {v : Value} {c : Char} (h : v.begins c) :
    isDelimiter c = false := by
  cases v with
  | boolean b =>
    obtain rfl := h
    cases b <;> rfl
  | number =>
    rcases h with rfl | h
    · rfl
    · exact isDelimiter_of_isDigit h
  | null | text | list | object =>
    obtain rfl := h
    rfl

/-- A character that begins a value is no white space. -/
theorem isJsonBlank_of_not_delimiter {c : Char} (h : isDelimiter c = false) :
    isJsonBlank c = false := by
  simp only [isDelimiter, Bool.or_eq_false_iff] at h
  exact h.1.1.1

theorem IsNatural.head {cs : List Char} (h : IsNatural cs) :
    ∃ c rest, cs = c :: rest ∧ c.isDigit = true := by
  obtain ⟨⟨hne, hdigits⟩, -⟩ := h
  obtain ⟨c, rest, rfl⟩ := List.exists_cons_of_ne_nil hne
  exact ⟨c, rest, rfl, hdigits c List.mem_cons_self⟩

theorem IsNumber.head {cs : List Char} (h : IsNumber cs) :
    ∃ c rest, cs = c :: rest ∧ (c = '-' ∨ c.isDigit = true) := by
  rcases h with ⟨digits, fraction, exponent, hdigits, -, -, rfl⟩ | ⟨magnitude, -, rfl⟩
  · obtain ⟨c, rest, rfl, hc⟩ := hdigits.head
    exact ⟨c, _, rfl, Or.inr hc⟩
  · exact ⟨'-', _, rfl, Or.inl rfl⟩

theorem Part.Written.head {v : Value} {cs : List Char} (h : Written (.value v) cs) :
    ∃ c rest, cs = c :: rest ∧ v.begins c := by
  cases h with
  | null | true | false | list | object => exact ⟨_, _, rfl, rfl⟩
  | number hnumber => exact hnumber.head
  | text htext =>
    obtain ⟨_, _, -, -, rfl⟩ := htext
    exact ⟨'"', _, rfl, rfl⟩

theorem Separates.delimits {before : List Char} (h : Separates false before) (rest : List Char) :
    Delimits (before ++ rest) := by
  cases h with
  | comma hbefore =>
    rw [List.append_assoc, List.cons_append]
    exact .of_blanks hbefore (.cons rfl)

/-- Behind an item or a member, something stands that ends it. -/
theorem Part.Written.delimits {part : Part} {cs : List Char} (h : Written part cs)
    (hpart : part.follows) (rest : List Char) : Delimits (cs ++ rest) := by
  cases h with
  | endItems hbefore | endMembers hbefore =>
    rw [List.append_assoc]
    exact .of_blanks hbefore (.cons rfl)
  | item hbefore | member hbefore =>
    subst hpart
    rw [List.append_assoc]
    exact hbefore.delimits _
  | _ => exact hpart.elim

end ImageBuild.Json
