import ImageBuild.Json.Scalar
import ImageBuild.Proofs.Json.Grammar

/-!
# Reading the spellings of a number

Every number is passed over within a value that is skipped (`skipUnsigned_eq_ok`). Where a word of
32 bits is wanted, a number is one if it is written in digits alone and small enough
(`word32_readUnsigned_eq_ok_iff`).
-/

namespace ImageBuild.Json

/-! ## Where digits end -/

/-- Nothing that could belong to the digits in front of it. -/
def EndsDigits (cs : List Char) : Prop := ∀ c ∈ cs.head?, c.isDigit = false

theorem EndsDigits.dropWhile {cs : List Char} (h : EndsDigits cs) :
    cs.dropWhile Char.isDigit = cs := by
  cases cs with
  | nil => rfl
  | cons c cs => rw [List.dropWhile_cons_of_neg (by simp [h c rfl])]

theorem EndsDigits.takeWhile {cs : List Char} (h : EndsDigits cs) :
    cs.takeWhile Char.isDigit = [] := by
  cases cs with
  | nil => rfl
  | cons c cs => rw [List.takeWhile_cons_of_neg (by simp [h c rfl])]

theorem Delimits.endsDigits {cs : List Char} (h : Delimits cs) : EndsDigits cs := by
  intro c hc
  rw [Bool.eq_false_iff]
  intro hdigit
  have hnot := isDelimiter_of_isDigit hdigit
  rw [h c hc] at hnot
  cases hnot

theorem IsExponent.endsDigits {exponent rest : List Char} (h : IsExponent exponent)
    (hrest : EndsDigits rest) : EndsDigits (exponent ++ rest) := by
  cases h with
  | none => exact hrest
  | some hletter =>
    rintro _ ⟨⟩
    rcases hletter with rfl | rfl <;> rfl

theorem IsFraction.endsDigits {fraction rest : List Char} (h : IsFraction fraction)
    (hrest : EndsDigits rest) : EndsDigits (fraction ++ rest) := by
  cases h with
  | none => exact hrest
  | some =>
    rintro _ ⟨⟩
    rfl

theorem dropWhile_digits {digits rest : List Char} (h : ∀ c ∈ digits, c.isDigit = true)
    (hrest : EndsDigits rest) : (digits ++ rest).dropWhile Char.isDigit = rest := by
  rw [List.dropWhile_append_of_pos h, hrest.dropWhile]

theorem takeWhile_digits {digits rest : List Char} (h : ∀ c ∈ digits, c.isDigit = true)
    (hrest : EndsDigits rest) : (digits ++ rest).takeWhile Char.isDigit = digits := by
  rw [List.takeWhile_append_of_pos h, hrest.takeWhile, List.append_nil]

/-- What can follow a value begins neither a fraction nor an exponent. -/
theorem Delimits.head_ne {c : Char} {cs : List Char} (h : Delimits (c :: cs)) :
    c ≠ '.' ∧ c ≠ 'e' ∧ c ≠ 'E' := by
  have hc := h c rfl
  refine ⟨?_, ?_, ?_⟩ <;> rintro rfl <;> cases hc

/-! ## Numbers that are skipped -/

theorem skipExponent_eq_ok {sign digits rest : List Char}
    (hsign : sign = [] ∨ sign = ['+'] ∨ sign = ['-']) (hdigits : IsDigits digits)
    (hrest : EndsDigits rest) : skipExponent (sign ++ (digits ++ rest)) = .ok rest := by
  obtain ⟨hne, hdigit⟩ := hdigits
  obtain ⟨d, ds, rfl⟩ := List.exists_cons_of_ne_nil hne
  have hd : d.isDigit = true := hdigit d List.mem_cons_self
  have hds : (ds ++ rest).dropWhile Char.isDigit = rest :=
    dropWhile_digits (fun c hc => hdigit c (List.mem_cons_of_mem d hc)) hrest
  rcases hsign with rfl | rfl | rfl
  · have hplus : d ≠ '+' := by rintro rfl; cases hd
    have hminus : d ≠ '-' := by rintro rfl; cases hd
    simp [skipExponent, hplus, hminus, hd, hds]
  · simp [skipExponent, hd, hds]
  · simp [skipExponent, hd, hds]

theorem skipTail_delimits {rest : List Char} (h : Delimits rest) : skipTail rest = .ok rest := by
  cases rest with
  | nil => rfl
  | cons c cs =>
    obtain ⟨hpoint, hlower, hupper⟩ := h.head_ne
    simp [skipTail, hpoint, hlower, hupper]

theorem skipTail_exponent {exponent rest : List Char} (h : IsExponent exponent)
    (hrest : Delimits rest) : skipTail (exponent ++ rest) = .ok rest := by
  cases h with
  | none => exact skipTail_delimits hrest
  | some hletter hsign hdigits =>
    have hskip := skipExponent_eq_ok hsign hdigits hrest.endsDigits
    rcases hletter with rfl | rfl <;> simpa [skipTail] using hskip

/-- Behind the digits of a fraction, the number goes on as behind those before its point. -/
theorem skipTail_point {digits cs : List Char} (hdigits : IsDigits digits) (hends : EndsDigits cs)
    (hpoint : cs.head? ≠ some '.') : skipTail ('.' :: (digits ++ cs)) = skipTail cs := by
  obtain ⟨hne, hdigit⟩ := hdigits
  obtain ⟨d, ds, rfl⟩ := List.exists_cons_of_ne_nil hne
  have hd : d.isDigit = true := hdigit d List.mem_cons_self
  have hds : (ds ++ cs).dropWhile Char.isDigit = cs :=
    dropWhile_digits (fun c hc => hdigit c (List.mem_cons_of_mem d hc)) hends
  cases cs with
  | nil =>
    rw [List.append_nil] at hds
    simp [skipTail, hd, hds]
  | cons c cs =>
    have hc : c ≠ '.' := fun hc => hpoint (congrArg some hc)
    by_cases hlower : c = 'e'
    · subst hlower
      simp [skipTail, hd, hds]
    · by_cases hupper : c = 'E'
      · subst hupper
        simp [skipTail, hd, hds]
      · simp [skipTail, hd, hds, hc, hlower, hupper]

theorem skipTail_eq_ok {fraction exponent rest : List Char} (hfraction : IsFraction fraction)
    (hexponent : IsExponent exponent) (hrest : Delimits rest) :
    skipTail (fraction ++ (exponent ++ rest)) = .ok rest := by
  have hskip := skipTail_exponent hexponent hrest
  cases hfraction with
  | none => exact hskip
  | some hdigits =>
    rw [List.cons_append,
      skipTail_point hdigits (hexponent.endsDigits hrest.endsDigits) ?_, hskip]
    cases hexponent with
    | none =>
      cases rest with
      | nil => nofun
      | cons c cs => exact fun h => hrest.head_ne.1 (Option.some.inj h)
    | some hletter => rcases hletter with rfl | rfl <;> nofun

theorem IsNatural.skipUnsigned {digits follow : List Char} (h : IsNatural digits)
    (hends : EndsDigits follow) : skipUnsigned (digits ++ follow) = skipTail follow := by
  obtain ⟨⟨hne, hdigit⟩, hzero⟩ := h
  obtain ⟨d, ds, rfl⟩ := List.exists_cons_of_ne_nil hne
  have hd : d.isDigit = true := hdigit d List.mem_cons_self
  by_cases hd0 : d = '0'
  · subst hd0
    obtain rfl : ds = [] := (List.cons.inj (hzero rfl)).2
    cases follow with
    | nil => rfl
    | cons c cs => simp [Json.skipUnsigned, hends c rfl]
  · have hds := dropWhile_digits (fun c hc => hdigit c (List.mem_cons_of_mem d hc)) hends
    simp [Json.skipUnsigned, hd, hd0, hds]

theorem skipUnsigned_eq_ok {magnitude rest : List Char} (h : IsMagnitude magnitude)
    (hrest : Delimits rest) : skipUnsigned (magnitude ++ rest) = .ok rest := by
  obtain ⟨digits, fraction, exponent, hdigits, hfraction, hexponent, rfl⟩ := h
  rw [List.append_assoc, List.append_assoc,
    hdigits.skipUnsigned (hfraction.endsDigits (hexponent.endsDigits hrest.endsDigits)),
    skipTail_eq_ok hfraction hexponent hrest]

/-! ## Words -/

theorem le_ofDigitChars (n : Nat) (digits : List Char) : n ≤ Nat.ofDigitChars 10 digits n := by
  induction digits generalizing n with
  | nil => exact Nat.le_refl n
  | cons c cs ih =>
    rw [Nat.ofDigitChars_cons]
    exact Nat.le_trans (by omega) (ih _)

/-- Digits that all fit make up the number they write, and the digits of a number that fits do. -/
theorem fillSignificand_spec (n : Nat) (digits : List Char) :
    ((fillSignificand n digits).2 = [] →
        (fillSignificand n digits).1 = Nat.ofDigitChars 10 digits n) ∧
      (Nat.ofDigitChars 10 digits n ≤ significandLimit → (fillSignificand n digits).2 = []) := by
  induction digits generalizing n with
  | nil => exact ⟨fun _ => rfl, fun _ => rfl⟩
  | cons c cs ih =>
    have hvalue : n * 10 + digitValue c = 10 * n + (c.toNat - '0'.toNat) := by
      rw [Nat.mul_comm]
      rfl
    rw [Nat.ofDigitChars_cons, ← hvalue, fillSignificand]
    split
    · exact ih _
    · -- more digits make the number no smaller, so it does not fit either
      rename_i hfit
      exact ⟨nofun, fun hle => absurd (Nat.le_trans (le_ofDigitChars _ cs) hle) hfit⟩

/-- Reading gives no natural number. -/
def NotNatural (reading : Reading Number) : Prop := ∀ n rest, reading ≠ .ok (.natural n, rest)

theorem notNatural_readFloat (sign : Bool) (significand : Nat) (exponent : Int)
    (rest : List Char) : NotNatural (readFloat sign significand exponent rest) := by
  intro n rest' h
  unfold readFloat at h
  split at h <;> cases h

theorem notNatural_readExponent (sign : Bool) (significand : Nat) (exponent : Int)
    (cs : List Char) : NotNatural (readExponent sign significand exponent cs) := by
  intro n rest h
  unfold readExponent at h
  split at h
  · cases h
  · split at h
    · cases h
    · split at h
      · exact notNatural_readFloat _ _ _ _ _ _ h
      · split at h <;> cases h

theorem notNatural_readMagnitude (sign : Bool) (significand : Nat) (exponent : Int)
    (cs : List Char) : NotNatural (readMagnitude sign significand exponent cs) := by
  intro n rest h
  unfold readMagnitude at h
  split at h
  · exact notNatural_readExponent _ _ _ _ _ _ h
  · exact notNatural_readExponent _ _ _ _ _ _ h
  · exact notNatural_readFloat _ _ _ _ _ _ h

theorem notNatural_readFraction (sign : Bool) (significand : Nat) (exponent : Int)
    (cs : List Char) : NotNatural (readFraction sign significand exponent cs) := by
  intro n rest h
  unfold readFraction at h
  split at h
  · cases h
  · cases h
  · exact notNatural_readMagnitude _ _ _ _ _ _ h

theorem readTail_of_delimits {rest : List Char} (h : Delimits rest) (sign : Bool)
    (digits : List Char) :
    readTail sign digits rest =
      if (fillSignificand 0 digits).2 = [] then
        .ok (integer sign (fillSignificand 0 digits).1, rest)
      else
        readFloat sign (fillSignificand 0 digits).1 (fillSignificand 0 digits).2.length rest := by
  cases rest with
  | nil => rfl
  | cons c cs =>
    obtain ⟨hpoint, hlower, hupper⟩ := h.head_ne
    simp [readTail, hpoint, hlower, hupper]

/-- A number with a fraction or an exponent. -/
theorem notNatural_readTail {c : Char} (h : c = '.' ∨ c = 'e' ∨ c = 'E') (sign : Bool)
    (digits cs : List Char) : NotNatural (readTail sign digits (c :: cs)) := by
  rcases h with rfl | rfl | rfl
  · exact notNatural_readFraction _ _ _ _
  · exact notNatural_readExponent _ _ _ _
  · exact notNatural_readExponent _ _ _ _

theorem notNatural_readTail_negative (digits cs : List Char) :
    NotNatural (readTail true digits cs) := by
  intro n rest h
  unfold readTail at h
  dsimp only at h
  split at h
  · exact notNatural_readFraction _ _ _ _ _ _ h
  · exact notNatural_readExponent _ _ _ _ _ _ h
  · exact notNatural_readExponent _ _ _ _ _ _ h
  · split at h
    · have hinteger := congrArg Prod.fst (Except.ok.inj h)
      simp only [integer, Bool.not_true, Bool.false_eq_true, if_false] at hinteger
      split at hinteger
      · cases hinteger
      · split at hinteger <;> cases hinteger
    · exact notNatural_readFloat _ _ _ _ _ _ h

theorem IsNatural.readUnsigned {digits follow : List Char} (h : IsNatural digits)
    (hends : EndsDigits follow) (sign : Bool) :
    readUnsigned sign (digits ++ follow) = readTail sign digits follow := by
  obtain ⟨⟨hne, hdigit⟩, hzero⟩ := h
  obtain ⟨d, ds, rfl⟩ := List.exists_cons_of_ne_nil hne
  have hd : d.isDigit = true := hdigit d List.mem_cons_self
  by_cases hd0 : d = '0'
  · subst hd0
    obtain rfl : ds = [] := (List.cons.inj (hzero rfl)).2
    cases follow with
    | nil => rfl
    | cons c cs => simp [Json.readUnsigned, hends c rfl]
  · have hall : ∀ c ∈ ds, c.isDigit = true := fun c hc => hdigit c (List.mem_cons_of_mem d hc)
    simp [Json.readUnsigned, spanDigits, hd, hd0, dropWhile_digits hall hends,
      takeWhile_digits hall hends]

theorem notNatural_readUnsigned_negative {magnitude rest : List Char} (h : IsMagnitude magnitude)
    (hrest : Delimits rest) : NotNatural (readUnsigned true (magnitude ++ rest)) := by
  obtain ⟨digits, fraction, exponent, hdigits, hfraction, hexponent, rfl⟩ := h
  rw [List.append_assoc, List.append_assoc,
    hdigits.readUnsigned (hfraction.endsDigits (hexponent.endsDigits hrest.endsDigits))]
  exact notNatural_readTail_negative _ _

/-- A number that is written in digits alone is read as the natural number that they make up, if it
fits, and every other one as something else. -/
theorem readUnsigned_eq_natural_iff {magnitude rest rest' : List Char} {n : Nat}
    (h : IsMagnitude magnitude) (hrest : Delimits rest) (hn : n ≤ significandLimit) :
    readUnsigned false (magnitude ++ rest) = .ok (.natural n, rest') ↔
      (∀ c ∈ magnitude, c.isDigit = true) ∧ Nat.ofDigitChars 10 magnitude 0 = n ∧ rest' = rest := by
  obtain ⟨digits, fraction, exponent, hdigits, hfraction, hexponent, rfl⟩ := h
  rw [List.append_assoc, List.append_assoc,
    hdigits.readUnsigned (hfraction.endsDigits (hexponent.endsDigits hrest.endsDigits))]
  cases hfraction with
  | some =>
    refine iff_of_false (notNatural_readTail (Or.inl rfl) _ _ _ _ _) ?_
    rintro ⟨hall, -⟩
    cases hall '.' (by simp)
  | none =>
    cases hexponent with
    | @some letter _ _ hletter =>
      refine iff_of_false (notNatural_readTail (Or.inr hletter) _ _ _ _ _) ?_
      rintro ⟨hall, -⟩
      have hdigit := hall letter (by simp)
      rcases hletter with rfl | rfl <;> cases hdigit
    | none =>
      obtain ⟨hvalue, hfits⟩ := fillSignificand_spec 0 digits
      simp only [List.nil_append, List.append_nil]
      rw [readTail_of_delimits hrest]
      split
      · rename_i hfit
        rw [hvalue hfit]
        simp only [integer, Bool.not_false, if_true, Except.ok.injEq, Prod.mk.injEq,
          Number.natural.injEq]
        exact ⟨fun hread => ⟨hdigits.1.2, hread.1, hread.2.symm⟩,
          fun hread => ⟨hread.2.1, hread.2.2.symm⟩⟩
      · rename_i hfit
        refine iff_of_false (notNatural_readFloat _ _ _ _ _ _) ?_
        rintro ⟨-, rfl, -⟩
        exact hfit (hfits hn)

theorem word32_eq_ok_iff {expected : String} {n : Number} {rest rest' : List Char} {w : UInt32} :
    word32 expected n rest = .ok (w, rest') ↔ n = .natural w.toNat ∧ rest' = rest := by
  unfold word32
  split
  · rename_i k
    split
    · rename_i hk
      simp only [Except.ok.injEq, Prod.mk.injEq, Number.natural.injEq]
      constructor
      · rintro ⟨rfl, rfl⟩
        exact ⟨(UInt32.toNat_ofNat_of_lt hk).symm, rfl⟩
      · rintro ⟨rfl, rfl⟩
        exact ⟨UInt32.ofNat_toNat, rfl⟩
    · rename_i hk
      refine iff_of_false nofun ?_
      rintro ⟨hn, -⟩
      rw [Number.natural.injEq] at hn
      exact hk (hn ▸ w.toNat_lt)
  · simp [faultAt]
  · simp [faultAt]

end ImageBuild.Json
