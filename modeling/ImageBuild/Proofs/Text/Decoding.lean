import ImageBuild.Proofs.ByteOrder
import ImageBuild.Text.Blank
import Mathlib.Data.List.DropRight

/-!
# Bytes and the text that they show

A byte that continues no character ends whatever was begun before it, so that bytes which end in an
encoded text show it at their end (`decodeLossy_append_encode`), and an encoded text is read back as
it was (`decode?_encode`). Carriage returns are shown by bytes of their own only
(`trimEndMatches_decodeLossy`).
-/

namespace ImageBuild.Text.Utf8

variable {o : Owed} {o? : Option Owed} {b : UInt8} {bs : List UInt8}

/-- What is owed to a character whose first bytes were read: bytes that continue one, which bring it
beyond the characters of one byte. -/
structure Owed.IsSound (o : Owed) : Prop where
  least_ge : 0x80 ≤ o.least
  greatest_le : o.greatest ≤ 0xBF
  bits_ge : 2 ≤ o.bits * 64 + (o.least - 0x80)
  last_ge : o.missing ≤ 1 → 2 ≤ o.bits

theorem isSound_of_lead (h : lead b = .longer o) : o.IsSound := by
  unfold lead at h
  dsimp only at h
  split_ifs at h <;> obtain rfl := Lead.longer.inj h <;> constructor <;> dsimp only <;> omega

/-! ## One byte -/

theorem piecesFrom_lead (h : lead b = .longer o) (bs : List UInt8) :
    piecesFrom none (b :: bs) = piecesFrom (some o) bs := by
  rw [piecesFrom, h]

/-- The byte that goes on with a character of which more bytes are owed. -/
theorem piecesFrom_next (hlow : o.least ≤ b.toNat) (hhigh : b.toNat ≤ o.greatest)
    (h : 1 < o.missing) (bs : List UInt8) : piecesFrom (some o) (b :: bs) =
      piecesFrom (some ⟨o.missing - 1, 0x80, 0xBF, o.bits * 64 + (b.toNat - 0x80), o.taken + 1⟩)
        bs := by
  rw [piecesFrom, if_pos ⟨hlow, hhigh⟩]
  exact if_neg (by omega)

/-- The byte that completes a character. -/
theorem piecesFrom_last (hlow : o.least ≤ b.toNat) (hhigh : b.toNat ≤ o.greatest)
    (h : o.missing ≤ 1) (bs : List UInt8) : piecesFrom (some o) (b :: bs) =
      .char (Char.ofNat (o.bits * 64 + (b.toNat - 0x80))) :: piecesFrom none bs := by
  rw [piecesFrom, if_pos ⟨hlow, hhigh⟩]
  exact if_pos h

/-- A byte that does not go on with a character breaks it off, and stands for itself. -/
theorem piecesFrom_broken (h : ¬ (o.least ≤ b.toNat ∧ b.toNat ≤ o.greatest)) (bs : List UInt8) :
    piecesFrom (some o) (b :: bs) = .broken o.taken :: piecesFrom none (b :: bs) := by
  cases hb : lead b <;> simp only [piecesFrom, if_neg h, hb]

theorem Owed.IsSound.next (h : o.IsSound) (hlow : o.least ≤ b.toNat) :
    (⟨o.missing - 1, 0x80, 0xBF, o.bits * 64 + (b.toNat - 0x80), o.taken + 1⟩ : Owed).IsSound := by
  have hbits := h.bits_ge
  constructor <;> dsimp only <;> omega

/-! ## Encoded characters -/

theorem toNat_ofNat {k : Nat} (h : k < 256) : (UInt8.ofNat k).toNat = k :=
  UInt8.toNat_ofNat_of_lt' h

theorem toNat_tail (n : Nat) : (UInt8.ofNat (n % 64 + 128)).toNat = n % 64 + 128 :=
  toNat_ofNat (by omega)

/-- A byte of a character, not the last one. -/
theorem piecesFrom_tail (missing bits taken n : Nat) (bs : List UInt8) :
    piecesFrom (some ⟨missing + 2, 0x80, 0xBF, bits, taken⟩) (UInt8.ofNat (n % 64 + 128) :: bs) =
      piecesFrom (some ⟨missing + 1, 0x80, 0xBF, bits * 64 + n % 64, taken + 1⟩) bs := by
  have hb := toNat_tail n
  rw [piecesFrom_next (by dsimp only; omega) (by dsimp only; omega) (by dsimp only; omega), hb,
    Nat.add_sub_cancel]
  rfl

/-- The last byte of a character. -/
theorem piecesFrom_end (bits taken n : Nat) (bs : List UInt8) :
    piecesFrom (some ⟨1, 0x80, 0xBF, bits, taken⟩) (UInt8.ofNat (n % 64 + 128) :: bs) =
      .char (Char.ofNat (bits * 64 + n % 64)) :: piecesFrom none bs := by
  have hb := toNat_tail n
  rw [piecesFrom_last (by dsimp only; omega) (by dsimp only; omega) (Nat.le_refl 1), hb,
    Nat.add_sub_cancel]

/-- The first byte of a character of two bytes. -/
theorem piecesFrom_two {n : Nat} (hlow : 0x7F < n) (hhigh : n ≤ 0x7FF) (bs : List UInt8) :
    piecesFrom none (UInt8.ofNat (n / 64 % 32 + 192) :: bs) =
      piecesFrom (some ⟨1, 0x80, 0xBF, n / 64, 1⟩) bs := by
  have hb : (UInt8.ofNat (n / 64 % 32 + 192)).toNat = n / 64 + 192 := by
    rw [toNat_ofNat] <;> omega
  refine piecesFrom_lead ?_ bs
  unfold lead
  dsimp only
  rw [hb, if_neg (by omega), if_pos (by omega), Nat.add_sub_cancel]

/-- The first bytes of a character of three bytes, which is no half of a pair. -/
theorem piecesFrom_three {n : Nat} (hlow : 0x7FF < n) (hhigh : n ≤ 0xFFFF)
    (hvalid : n < 0xD800 ∨ 0xDFFF < n) (bs : List UInt8) :
    piecesFrom none (UInt8.ofNat (n / 4096 % 16 + 224) :: UInt8.ofNat (n / 64 % 64 + 128) :: bs) =
      piecesFrom (some ⟨1, 0x80, 0xBF, n / 64, 2⟩) bs := by
  have hb : (UInt8.ofNat (n / 4096 % 16 + 224)).toNat = n / 4096 + 224 := by
    rw [toNat_ofNat] <;> omega
  have htail := toNat_tail (n / 64)
  obtain ⟨o, hlead, hmissing, hbits, htaken, hleast, hgreatest⟩ : ∃ o,
      lead (UInt8.ofNat (n / 4096 % 16 + 224)) = .longer o ∧ o.missing = 2 ∧ o.bits = n / 4096 ∧
        o.taken = 1 ∧ o.least ≤ n / 64 % 64 + 128 ∧ n / 64 % 64 + 128 ≤ o.greatest := by
    unfold lead
    dsimp only
    rw [hb, if_neg (by omega), if_neg (by omega)]
    split_ifs
    all_goals first
      | exact ⟨_, rfl, rfl, by dsimp only; omega, rfl, by dsimp only; omega, by dsimp only; omega⟩
      | omega
  have hn : n / 4096 * 64 + (n / 64 % 64 + 128 - 0x80) = n / 64 := by omega
  rw [piecesFrom_lead hlead, piecesFrom_next (by omega) (by omega) (by omega), htail, hmissing,
    hbits, htaken, hn]

/-- The first bytes of a character of four bytes. -/
theorem piecesFrom_four {n : Nat} (hlow : 0xFFFF < n) (hhigh : n < 0x110000) (bs : List UInt8) :
    piecesFrom none
        (UInt8.ofNat (n / 262144 % 8 + 240) :: UInt8.ofNat (n / 4096 % 64 + 128) :: bs) =
      piecesFrom (some ⟨2, 0x80, 0xBF, n / 4096, 2⟩) bs := by
  have hb : (UInt8.ofNat (n / 262144 % 8 + 240)).toNat = n / 262144 + 240 := by
    rw [toNat_ofNat] <;> omega
  have htail := toNat_tail (n / 4096)
  obtain ⟨o, hlead, hmissing, hbits, htaken, hleast, hgreatest⟩ : ∃ o,
      lead (UInt8.ofNat (n / 262144 % 8 + 240)) = .longer o ∧ o.missing = 3 ∧
        o.bits = n / 262144 ∧ o.taken = 1 ∧ o.least ≤ n / 4096 % 64 + 128 ∧
          n / 4096 % 64 + 128 ≤ o.greatest := by
    unfold lead
    dsimp only
    rw [hb, if_neg (by omega), if_neg (by omega), if_neg (by omega), if_neg (by omega),
      if_neg (by omega)]
    split_ifs
    all_goals first
      | exact ⟨_, rfl, rfl, by dsimp only; omega, rfl, by dsimp only; omega, by dsimp only; omega⟩
      | omega
  have hn : n / 262144 * 64 + (n / 4096 % 64 + 128 - 0x80) = n / 4096 := by omega
  rw [piecesFrom_lead hlead, piecesFrom_next (by omega) (by omega) (by omega), htail, hmissing,
    hbits, htaken, hn]

/-- The bytes of a character are read as this character. -/
theorem piecesFrom_encodeChar (c : Char) (bs : List UInt8) :
    piecesFrom none (String.utf8EncodeChar c ++ bs) = .char c :: piecesFrom none bs := by
  have hofNat : Char.ofNat c.val.toNat = c := Char.ofNat_toNat c
  have hvalid : c.val.toNat < 0xD800 ∨ 0xDFFF < c.val.toNat ∧ c.val.toNat < 0x110000 := c.valid
  unfold String.utf8EncodeChar
  dsimp only
  generalize c.val.toNat = n at hofNat hvalid
  have htwo : n / 64 * 64 + n % 64 = n := by omega
  have hthree : n / 4096 * 64 + n / 64 % 64 = n / 64 := by omega
  split_ifs
  · have hlead : lead (UInt8.ofNat n) = .whole c := by
      unfold lead
      dsimp only
      rw [toNat_ofNat (by omega), if_pos (by omega), hofNat]
    rw [List.singleton_append, piecesFrom, hlead]
  · simp only [List.cons_append, List.nil_append]
    rw [piecesFrom_two (by omega) (by omega), piecesFrom_end, htwo, hofNat]
  · simp only [List.cons_append, List.nil_append]
    rw [piecesFrom_three (by omega) (by omega) (by omega), piecesFrom_end, htwo, hofNat]
  · simp only [List.cons_append, List.nil_append]
    rw [piecesFrom_four (by omega) (by omega), piecesFrom_tail, hthree, piecesFrom_end, htwo,
      hofNat]

theorem exists_encodeChar_cons (c : Char) : ∃ b rest, String.utf8EncodeChar c = b :: rest ∧
    ¬ (0x80 ≤ b.toNat ∧ b.toNat ≤ 0xBF) := by
  have hmax : c.val.toNat < 0x110000 := by
    have hvalid : c.val.toNat < 0xD800 ∨ 0xDFFF < c.val.toNat ∧ c.val.toNat < 0x110000 := c.valid
    omega
  unfold String.utf8EncodeChar
  dsimp only
  split_ifs <;> exact ⟨_, _, rfl, by rw [toNat_ofNat] <;> omega⟩

/-- A byte that stands for a character of its own is in the bytes of this character only. -/
theorem eq_ofNat_of_mem_encodeChar {c : Char} (h : b ∈ String.utf8EncodeChar c)
    (hb : b.toNat < 0x80) : c = Char.ofNat b.toNat := by
  have hofNat : Char.ofNat c.val.toNat = c := Char.ofNat_toNat c
  unfold String.utf8EncodeChar at h
  dsimp only at h
  split_ifs at h
  · obtain rfl := List.mem_singleton.1 h
    rw [toNat_ofNat (by omega), hofNat]
  all_goals
    simp only [List.mem_cons, List.not_mem_nil, or_false] at h
    have hbyte : 0x80 ≤ b.toNat := by
      rcases h with rfl | rfl | rfl | rfl <;> rw [toNat_ofNat] <;> omega
    omega

theorem pieces_encode (s : String) : pieces (encode s) = s.toList.map .char := by
  rw [encode_eq_flatMap, pieces]
  induction s.toList with
  | nil => rfl
  | cons c cs ih => rw [List.flatMap_cons, piecesFrom_encodeChar, ih, List.map_cons]

/-- A text is read back from its bytes. -/
theorem decode?_encode (s : String) : decode? (encode s) = .ok s := by
  have hcollect : ∀ (cs : List Char) start, collect start (cs.map .char) = .ok cs := by
    intro cs
    induction cs with
    | nil => exact fun start => rfl
    | cons c cs ih =>
      intro start
      rw [List.map_cons, collect, ih]
      rfl
  unfold decode?
  rw [pieces_encode, hcollect]
  exact congrArg Except.ok (String.ofList_toList)

/-! ## What one byte adds -/

theorem whole_of_lead {c : Char} (h : lead b = .whole c) : c = Char.ofNat b.toNat := by
  unfold lead at h
  dsimp only at h
  split_ifs at h
  exact (Lead.whole.inj h).symm

theorem ofNat_ne_carriageReturn {n : Nat} (h : n ≠ 13) : Char.ofNat n ≠ '\r' := by
  by_cases hvalid : n.isValidChar
  · rw [Char.ofNat, dif_pos hvalid]
    exact fun heq => h (congrArg Char.toNat heq)
  · rw [Char.ofNat, dif_neg hvalid]
    decide

theorem shown_broken_ne (n : Nat) : (Piece.broken n).shown ≠ '\r' := by
  rw [Piece.shown]
  decide

/-- What one byte adds: pieces that it completes, and what is owed behind it. -/
structure Adds (o? : Option Owed) (b : UInt8) (done : List Piece) (o?' : Option Owed) : Prop where
  eq : ∀ bs, piecesFrom o? (b :: bs) = done ++ piecesFrom o?' bs
  sound : ∀ o, o?' = some o → o.IsSound
  /-- Something is shown for every byte. -/
  shows : done ≠ [] ∨ o?' ≠ none
  /-- A carriage return is shown for its own byte only. -/
  clear : b ≠ 13 → ∀ piece ∈ done, piece.shown ≠ '\r'

theorem exists_adds_none (b : UInt8) : ∃ done o?', Adds none b done o?' := by
  cases hlead : lead b with
  | whole c =>
    refine ⟨[.char c], none, fun bs => by rw [piecesFrom, hlead]; rfl, nofun, .inl (by simp), ?_⟩
    intro hne piece hpiece
    obtain rfl := List.mem_singleton.1 hpiece
    rw [Piece.shown, whole_of_lead hlead]
    exact ofNat_ne_carriageReturn fun h => hne (UInt8.toNat_inj.1 h)
  | longer o =>
    refine ⟨[], some o, fun bs => piecesFrom_lead hlead bs, ?_, .inr (by simp), nofun⟩
    rintro _ ⟨⟩
    exact isSound_of_lead hlead
  | bad =>
    refine ⟨[.broken 1], none, fun bs => by rw [piecesFrom, hlead]; rfl, nofun, .inl (by simp), ?_⟩
    intro hne piece hpiece
    obtain rfl := List.mem_singleton.1 hpiece
    decide

theorem Owed.IsSound.exists_adds (h : o.IsSound) (b : UInt8) :
    ∃ done o?', Adds (some o) b done o?' := by
  by_cases hrange : o.least ≤ b.toNat ∧ b.toNat ≤ o.greatest
  · obtain ⟨hlow, hhigh⟩ := hrange
    by_cases hlast : o.missing ≤ 1
    · refine ⟨[.char _], none, fun bs => piecesFrom_last hlow hhigh hlast bs, nofun,
        .inl (by simp), ?_⟩
      intro hne piece hpiece
      obtain rfl := List.mem_singleton.1 hpiece
      have hbits := h.last_ge hlast
      exact ofNat_ne_carriageReturn (by omega)
    · refine ⟨[], some _, fun bs => piecesFrom_next hlow hhigh (by omega) bs, ?_, .inr (by simp),
        nofun⟩
      rintro _ ⟨⟩
      exact h.next hlow
  · obtain ⟨done, o?', hadds⟩ := exists_adds_none b
    refine ⟨.broken o.taken :: done, o?', fun bs => ?_, hadds.sound, .inl (by simp), ?_⟩
    · rw [piecesFrom_broken hrange, hadds.eq, List.cons_append]
    · intro hne piece hpiece
      rcases List.mem_cons.1 hpiece with rfl | hpiece
      · exact shown_broken_ne o.taken
      · exact hadds.clear hne piece hpiece

theorem exists_adds (hsound : ∀ o, o? = some o → o.IsSound) (b : UInt8) :
    ∃ done o?', Adds o? b done o?' := by
  cases o? with
  | none => exact exists_adds_none b
  | some o => exact (hsound o rfl).exists_adds b

/-! ## Bytes with a text behind them -/

/-- A byte that goes on with no character breaks off what was begun, which shows as what the end of
the bytes would show. -/
theorem shown_append_lead (hsound : ∀ o, o? = some o → o.IsSound)
    (hb : ¬ (0x80 ≤ b.toNat ∧ b.toNat ≤ 0xBF)) (bs rest : List UInt8) :
    (piecesFrom o? (bs ++ b :: rest)).map Piece.shown =
      (piecesFrom o? bs).map Piece.shown ++ (piecesFrom none (b :: rest)).map Piece.shown := by
  induction bs generalizing o? with
  | nil =>
    cases o? with
    | none => rfl
    | some o =>
      have hrange : ¬ (o.least ≤ b.toNat ∧ b.toNat ≤ o.greatest) := by
        have hleast := (hsound o rfl).least_ge
        have hgreatest := (hsound o rfl).greatest_le
        omega
      rw [List.nil_append, piecesFrom_broken hrange, piecesFrom]
      rfl
  | cons b' bs ih =>
    obtain ⟨done, o?', hadds⟩ := exists_adds hsound b'
    rw [List.cons_append, hadds.eq, hadds.eq, List.map_append, ih hadds.sound, List.map_append,
      List.append_assoc]

/-- A text behind bytes is shown behind what they show. -/
theorem decodeLossy_append_encode (bs : List UInt8) (s : String) :
    decodeLossy (bs ++ encode s) = decodeLossy bs ++ s := by
  have hshown : (pieces (bs ++ encode s)).map Piece.shown =
      (pieces bs).map Piece.shown ++ s.toList := by
    have hs : (pieces (encode s)).map Piece.shown = s.toList := by
      rw [pieces_encode, List.map_map]
      exact List.map_id _
    cases hcs : s.toList with
    | nil => simp [encode_eq_flatMap, hcs]
    | cons c cs =>
      obtain ⟨b, rest, hc, hb⟩ := exists_encodeChar_cons c
      rw [hcs, encode_eq_flatMap, hcs, List.flatMap_cons, hc, List.cons_append] at hs
      rw [encode_eq_flatMap, hcs, List.flatMap_cons, hc, List.cons_append]
      have hnone : ∀ o, (none : Option Owed) = some o → o.IsSound := fun _ h => nomatch h
      exact (shown_append_lead hnone hb bs _).trans (congrArg _ hs)
  unfold decodeLossy
  rw [hshown, String.ofList_append, String.ofList_toList]

theorem decodeLossy_encode (s : String) : decodeLossy (encode s) = s :=
  (decodeLossy_append_encode [] s).trans (String.empty_append)

/-! ## Carriage returns -/

theorem piecesFrom_ne_nil (hsound : ∀ o, o? = some o → o.IsSound) (h : o? ≠ none ∨ bs ≠ []) :
    piecesFrom o? bs ≠ [] := by
  induction bs generalizing o? with
  | nil =>
    cases o? with
    | none => simp at h
    | some o => exact List.cons_ne_nil _ _
  | cons b bs ih =>
    obtain ⟨done, o?', hadds⟩ := exists_adds hsound b
    rw [hadds.eq]
    rcases hadds.shows with hdone | howed
    · exact List.append_ne_nil_of_left_ne_nil hdone _
    · exact List.append_ne_nil_of_right_ne_nil _ (ih hadds.sound (.inl howed))

/-- A last byte that is no carriage return shows none. -/
theorem getLast?_shown_ne (hsound : ∀ o, o? = some o → o.IsSound) (hb : b ≠ 13)
    (bs : List UInt8) : ((piecesFrom o? (bs ++ [b])).map Piece.shown).getLast? ≠ some '\r' := by
  induction bs generalizing o? with
  | nil =>
    obtain ⟨done, o?', hadds⟩ := exists_adds hsound b
    rw [List.nil_append, hadds.eq, List.getLast?_map]
    intro hlast
    obtain ⟨piece, hpiece, hshown⟩ := Option.map_eq_some_iff.1 hlast
    rcases List.mem_append.1 (List.mem_of_getLast? hpiece) with hmem | hmem
    · exact hadds.clear hb piece hmem hshown
    · cases o?' with
      | none => cases hmem
      | some o =>
        obtain rfl := List.mem_singleton.1 hmem
        exact shown_broken_ne o.taken hshown
  | cons b' bs ih =>
    obtain ⟨done, o?', hadds⟩ := exists_adds hsound b'
    have hrest : piecesFrom o?' (bs ++ [b]) ≠ [] :=
      piecesFrom_ne_nil hadds.sound (.inr (by simp))
    rw [List.cons_append, hadds.eq, List.map_append,
      List.getLast?_append_of_ne_nil _ (by simpa using hrest)]
    exact ih hadds.sound

/-- The characters that bytes show, without the carriage returns at their end, are shown by the
bytes without those at their end. -/
theorem rdropWhile_shown (line : List UInt8) :
    ((pieces line).map Piece.shown).rdropWhile (· == '\r') =
      (pieces (line.rdropWhile (· == 13))).map Piece.shown := by
  have hsound : ∀ o, (none : Option Owed) = some o → o.IsSound := fun _ h => nomatch h
  induction line using List.reverseRecOn with
  | nil => rfl
  | append_singleton line b ih =>
    by_cases hb : b = 13
    · subst hb
      have hshown : (pieces (line ++ [13])).map Piece.shown =
          (pieces line).map Piece.shown ++ ['\r'] := shown_append_lead hsound (by decide) line []
      rw [hshown, List.rdropWhile_concat_pos _ _ _ rfl, List.rdropWhile_concat_pos _ _ _ rfl, ih]
    · have hlast : ((pieces (line ++ [b])).map Piece.shown).getLast? ≠ some '\r' :=
        getLast?_shown_ne hsound hb line
      rw [List.rdropWhile_concat_neg _ _ _ (by simpa using hb), List.rdropWhile_eq_self_iff]
      intro hne
      rw [List.getLast?_eq_some_getLast hne] at hlast
      simpa using hlast

/-- Dropping the carriage returns at the end of what bytes show is showing the bytes without those
at their end. -/
theorem trimEndMatches_decodeLossy (line : List UInt8) :
    trimEndMatches (· == '\r') (decodeLossy line) = decodeLossy (line.rdropWhile (· == 13)) := by
  unfold trimEndMatches decodeLossy
  rw [String.toList_ofList, ← rdropWhile_shown]
  rfl

end ImageBuild.Text.Utf8
