/-
HttpSuite/Proofs/Text/ByteOrder.lean

The order of texts.  Texts are compared character by character; as they lie in memory they are
compared byte by byte.  UTF-8 is made so that both come to the same:

    a < b   ↔   bytes a < bytes b

For a character is a row of digits of six bits, the highest ones first, and the byte in front tells
how many there are, so that a character that is less has less bytes already before the two rows end
(`bytes_lt_of_lt`).

Main result: the order of texts is that of their bytes (`lt_iff_bytes_lt`).
-/
import Mathlib.Data.String.Basic

namespace HttpSuite.Text

/-- The bytes of a text. -/
def bytes (s : String) : List UInt8 := s.toUTF8.data.toList

theorem bytes_eq_flatMap (s : String) : bytes s = s.toList.flatMap String.utf8EncodeChar := by
  rw [bytes, String.toUTF8_eq_toByteArray, ← String.utf8Encode_toList, List.utf8Encode,
    List.toList_data_toByteArray]

/-- Two bytes are compared, and where they are equal what follows them. -/
theorem ofNat_cons_lt {a b : Nat} {s t : List UInt8} (hb : b < 256)
    (h : a < b ∨ a = b ∧ s < t) : UInt8.ofNat a :: s < UInt8.ofNat b :: t := by
  rw [List.cons_lt_cons_iff]
  rcases h with h | ⟨rfl, h⟩
  · left
    rw [UInt8.lt_iff_toNat_lt, UInt8.toNat_ofNat', UInt8.toNat_ofNat',
      Nat.mod_eq_of_lt (Nat.lt_trans h hb), Nat.mod_eq_of_lt hb]
    exact h
  · exact .inr ⟨rfl, h⟩

/-- Two numbers with the same digits above a place `b` are compared by the digit at the place, and
where this is the same by the digits behind it. -/
theorem digit_cons_lt {v w b m mark : Nat} {s t : List UInt8} (hmark : m + mark ≤ 256) (hm : 0 < m)
    (hvw : v < w) (above : v / b / m = w / b / m) (behind : v / b = w / b → s < t) :
    UInt8.ofNat (v / b % m + mark) :: s < UInt8.ofNat (w / b % m + mark) :: t := by
  have hmod : w / b % m < m := Nat.mod_lt _ hm
  refine ofNat_cons_lt (by omega) ?_
  rcases Nat.lt_or_eq_of_le (Nat.div_le_div_right (Nat.le_of_lt hvw) : v / b ≤ w / b) with hlt | heq
  · -- the digits differ, as all above them are the same
    left
    have hv := Nat.div_add_mod (v / b) m
    have hw := Nat.div_add_mod (w / b) m
    rw [above] at hv
    omega
  · exact .inr ⟨by rw [heq], behind heq⟩

/-- Two numbers with the same digits above the last one are compared by it. -/
theorem last_cons_lt {v w : Nat} (s t : List UInt8) (hvw : v < w) (above : v / 64 = w / 64) :
    UInt8.ofNat (v % 64 + 128) :: s < UInt8.ofNat (w % 64 + 128) :: t :=
  ofNat_cons_lt (by omega) (.inl (by omega))

/-- Less characters have less bytes, whatever follows them. -/
theorem utf8EncodeChar_append_lt {c d : Char} (h : c < d) (s t : List UInt8) :
    String.utf8EncodeChar c ++ s < String.utf8EncodeChar d ++ t := by
  have hvw : c.val.toNat < d.val.toNat := h
  have hd : d.val.toNat < 0x110000 := by
    rcases d.valid with hd | ⟨-, hd⟩
    · exact Nat.lt_of_lt_of_le hd (by decide)
    · exact hd
  unfold String.utf8EncodeChar
  simp only
  generalize c.val.toNat = v at hvw ⊢
  generalize d.val.toNat = w at hvw hd ⊢
  -- of two characters with as many bytes, the digits are compared; else the bytes in front
  split
  · split
    · exact ofNat_cons_lt (by omega) (.inl hvw)
    · split
      · exact ofNat_cons_lt (by omega) (.inl (by omega))
      · split
        · exact ofNat_cons_lt (by omega) (.inl (by omega))
        · exact ofNat_cons_lt (by omega) (.inl (by omega))
  · rw [if_neg (by omega : ¬ w ≤ 127)]
    split
    · split
      · apply digit_cons_lt (by omega) (by omega) hvw (by omega)
        exact last_cons_lt s t hvw
      · split
        · exact ofNat_cons_lt (by omega) (.inl (by omega))
        · exact ofNat_cons_lt (by omega) (.inl (by omega))
    · rw [if_neg (by omega : ¬ w ≤ 2047)]
      split
      · split
        · apply digit_cons_lt (by omega) (by omega) hvw (by omega)
          intro habove
          apply digit_cons_lt (by omega) (by omega) hvw (by omega)
          exact last_cons_lt s t hvw
        · exact ofNat_cons_lt (by omega) (.inl (by omega))
      · rw [if_neg (by omega : ¬ w ≤ 65535)]
        apply digit_cons_lt (by omega) (by omega) hvw (by omega)
        intro habove
        apply digit_cons_lt (by omega) (by omega) hvw (by omega)
        intro habove'
        apply digit_cons_lt (by omega) (by omega) hvw (by omega)
        exact last_cons_lt s t hvw

theorem utf8EncodeChar_ne_nil (c : Char) : String.utf8EncodeChar c ≠ [] := by
  apply List.ne_nil_of_length_pos
  rw [String.length_utf8EncodeChar]
  exact Char.utf8Size_pos c

/-- Less texts have less bytes. -/
theorem bytes_lt_of_lt {s t : List Char} (h : s < t) :
    s.flatMap String.utf8EncodeChar < t.flatMap String.utf8EncodeChar := by
  induction s generalizing t with
  | nil =>
      obtain ⟨d, t, rfl⟩ : ∃ d t', t = d :: t' := by
        apply List.exists_cons_of_ne_nil
        rintro rfl
        exact absurd h (List.lt_irrefl _)
      obtain ⟨b, bs, hb⟩ := List.exists_cons_of_ne_nil (utf8EncodeChar_ne_nil d)
      rw [List.flatMap_nil, List.flatMap_cons, hb]
      exact List.nil_lt_cons ..
  | cons c s ih =>
      cases t with
      | nil => exact absurd h (List.not_lt_nil _)
      | cons d t =>
          rw [List.flatMap_cons, List.flatMap_cons]
          rcases List.cons_lt_cons_iff.mp h with hcd | ⟨rfl, hst⟩
          · exact utf8EncodeChar_append_lt hcd _ _
          · exact List.append_left_lt (ih hst)

/-- **The order of texts is that of their bytes.** -/
theorem lt_iff_bytes_lt {s t : String} : s < t ↔ bytes s < bytes t := by
  have hmono : ∀ {s t : String}, s < t → bytes s < bytes t := by
    intro s t h
    rw [bytes_eq_flatMap, bytes_eq_flatMap]
    exact bytes_lt_of_lt (String.lt_iff_toList_lt.mp h)
  refine ⟨hmono, fun h => ?_⟩
  rcases lt_trichotomy s t with hlt | rfl | hgt
  · exact hlt
  · exact absurd h (List.lt_irrefl _)
  · exact absurd h (List.lt_asymm (hmono hgt))

end HttpSuite.Text
