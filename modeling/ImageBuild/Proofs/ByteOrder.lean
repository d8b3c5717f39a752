import ImageBuild.Path
import ImageBuild.Text.Utf8
import Mathlib.Order.Basic

/-!
# The order of texts and of their bytes

Names are compared by their characters; file systems and archives compare them by their bytes. In
UTF-8 the two agree (`Utf8.precedes_iff`), since the bytes of a smaller character are smaller
whatever comes behind them (`Utf8.lex_encodeChar_append`). So `namesLe` orders paths by the bytes of
their names (`lex_of_namesLe`).
-/

namespace ImageBuild

namespace Text.Utf8

/-- The first byte in which two texts differ is smaller in the first one, or the bytes of the second
one go on where the first one ends. -/
def Precedes (a b : String) : Prop :=
  List.Lex (· < ·) (encode a) (encode b)

theorem toList_eq_data_toList (bytes : ByteArray) : bytes.toList = bytes.data.toList := by
  have key : ∀ i done, ByteArray.toList.loop bytes i done =
      done.reverse ++ bytes.data.toList.drop i := by
    intro i done
    fun_induction ByteArray.toList.loop bytes i done with
    | case1 i done h ih =>
      have hi : i < bytes.data.toList.length := by simpa using h
      rw [ih, List.drop_eq_getElem_cons hi]
      simp [ByteArray.get!, h]
    | case2 i done h =>
      rw [List.drop_eq_nil_of_le (by simpa using h)]
      simp
  exact key 0 []

/-- The characters of a text are encoded one behind the other. -/
theorem encode_eq_flatMap (s : String) :
    encode s = s.toList.flatMap String.utf8EncodeChar := by
  unfold encode
  rw [toList_eq_data_toList, String.toUTF8_eq_toByteArray, ← String.utf8Encode_toList,
    List.utf8Encode, List.data_toByteArray]

theorem lex_ofNat_cons_iff {a b : Nat} (ha : a < 256) (hb : b < 256) {as bs : List UInt8} :
    List.Lex (· < ·) (UInt8.ofNat a :: as) (UInt8.ofNat b :: bs) ↔
      a < b ∨ a = b ∧ List.Lex (· < ·) as bs := by
  have hcons : List.Lex (· < ·) (UInt8.ofNat a :: as) (UInt8.ofNat b :: bs) ↔ _ :=
    List.cons_lt_cons_iff
  rw [hcons, UInt8.lt_iff_toNat_lt, ← UInt8.toNat_inj, UInt8.toNat_ofNat_of_lt' ha,
    UInt8.toNat_ofNat_of_lt' hb]
  rfl

/-- The bytes of a smaller character are smaller, whatever comes behind them. -/
theorem lex_encodeChar_append {c d : Char} (h : c < d) (bs bs' : List UInt8) :
    List.Lex (· < ·) (String.utf8EncodeChar c ++ bs) (String.utf8EncodeChar d ++ bs') := by
  have hlt : c.val.toNat < d.val.toNat := h
  have hmax : d.val.toNat < 0x110000 := by
    rcases d.valid with hlow | hhigh
    · omega
    · exact hhigh.2
  -- the parts of six bits, each taken from what is left of the one before it
  have htwo (n : Nat) : n / 4096 = n / 64 / 64 := by omega
  have hthree (n : Nat) : n / 262144 = n / 64 / 64 / 64 := by omega
  unfold String.utf8EncodeChar
  simp only [htwo, hthree]
  split_ifs <;>
    simp (disch := omega) only [List.cons_append, List.nil_append, lex_ofNat_cons_iff] <;>
    omega

theorem lex_flatMap_encodeChar {cs ds : List Char} (h : List.Lex (· < ·) cs ds) :
    List.Lex (· < ·) (cs.flatMap String.utf8EncodeChar) (ds.flatMap String.utf8EncodeChar) := by
  induction h with
  | @nil d ds =>
    obtain ⟨b, bs, hb⟩ := List.exists_cons_of_ne_nil (String.utf8EncodeChar_ne_nil (c := d))
    rw [List.flatMap_cons, hb]
    exact .nil
  | cons _ ih =>
    rw [List.flatMap_cons, List.flatMap_cons]
    exact List.append_left_lt ih
  | rel hchar =>
    rw [List.flatMap_cons, List.flatMap_cons]
    exact lex_encodeChar_append hchar _ _

/-- The order of texts is that of their bytes. -/
theorem precedes_iff {a b : String} : Precedes a b ↔ a < b := by
  have hmono : ∀ {a b : String}, a < b → Precedes a b := by
    intro a b h
    unfold Precedes
    rw [encode_eq_flatMap, encode_eq_flatMap]
    exact lex_flatMap_encodeChar (String.lt_iff.1 h)
  refine ⟨fun h => ?_, hmono⟩
  by_contra hnot
  rcases Std.le_iff_lt_or_eq.1 (String.not_lt.1 hnot) with hlt | rfl
  · exact List.lt_asymm h (hmono hlt)
  · exact List.lt_irrefl _ h

end Text.Utf8

/-! ## The order of paths -/

theorem namesLe_total (p q : List Name) : (namesLe p q || namesLe q p) = true := by
  fun_induction namesLe p q with
  | case1 => rfl
  | case2 => rfl
  | case3 a as bs ih => rwa [namesLe, if_pos rfl]
  | case4 a as b bs hne =>
    rw [namesLe, if_neg (Ne.symm hne), ← Bool.decide_or, decide_eq_true_iff]
    by_contra hnot
    obtain ⟨hab, hba⟩ := not_or.1 hnot
    exact hne (String.le_antisymm (String.not_lt.1 hba) (String.not_lt.1 hab))

theorem namesLe_trans (p q r : List Name) (hpq : namesLe p q = true) (hqr : namesLe q r = true) :
    namesLe p r = true := by
  fun_induction namesLe p q generalizing r with
  | case1 => rw [namesLe]
  | case2 => cases hpq
  | case3 a as bs ih =>
    match r with
    | [] => exact hqr
    | c :: cs =>
      rw [namesLe] at hqr ⊢
      split_ifs at hqr ⊢ with hac
      · exact ih cs hpq hqr
      · exact hqr
  | case4 a as b bs hne =>
    match r with
    | [] => exact hqr
    | c :: cs =>
      have hab := of_decide_eq_true hpq
      rcases eq_or_ne b c with rfl | hbc
      · rwa [namesLe, if_neg hne]
      · rw [namesLe, if_neg hbc] at hqr
        have hac : a < c := String.lt_trans hab (of_decide_eq_true hqr)
        have hacne : a ≠ c := by
          rintro rfl
          exact String.lt_irrefl a hac
        rw [namesLe, if_neg hacne]
        exact decide_eq_true hac

/-- Different paths in order are so by the bytes of the first names in which they differ. -/
theorem lex_of_namesLe {p q : List Name} (h : namesLe p q = true) (hne : p ≠ q) :
    List.Lex Text.Utf8.Precedes p q := by
  fun_induction namesLe p q with
  | case1 q =>
    obtain ⟨b, bs, rfl⟩ := List.exists_cons_of_ne_nil (Ne.symm hne)
    exact .nil
  | case2 => cases h
  | case3 a as bs ih => exact .cons (ih h (by simpa using hne))
  | case4 => exact .rel (Text.Utf8.precedes_iff.2 (of_decide_eq_true h))

end ImageBuild
