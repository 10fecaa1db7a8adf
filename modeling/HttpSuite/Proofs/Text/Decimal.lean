/-
HttpSuite/Proofs/Text/Decimal.lean

Numbers in decimal digits.  A number is written without leading zeros and, if it is negative, behind
a minus sign.  It is read back (`intOfDigits?_toString`), and within 64 bits if it fits in them
(`int64OfDigits?_toString`).  And what is read is written so, unless there are leading zeros
(`toDigits_of_natOfDigits?`).
-/
import HttpSuite.Text.Ascii

namespace HttpSuite

namespace Ascii

/-- A number that is not negative is written in digits. -/
theorem toList_toString_ofNat (n : Nat) :
    (toString (Int.ofNat n)).toList = Nat.toDigits 10 n := by
  rw [show toString (Int.ofNat n) = toString n from rfl, Nat.toString_eq_ofList_toDigits,
    String.toList_ofList]

/-- A negative number is written in digits behind a sign. -/
theorem toList_toString_negSucc (n : Nat) :
    (toString (Int.negSucc n)).toList = '-' :: Nat.toDigits 10 (n + 1) := by
  rw [show toString (Int.negSucc n) = "-" ++ toString (n + 1) from rfl, String.toList_append,
    Nat.toString_eq_ofList_toDigits]
  exact congrArg ('-' :: ·) String.toList_ofList

theorem isDigit_of_mem_toDigits {n : Nat} {c : Char} (h : c ∈ Nat.toDigits 10 n) :
    isDigit c = true :=
  Nat.isDigit_of_mem_toDigits (by decide) (by decide) h

/-- The digits of a number are read back. -/
theorem natOfDigits?_toDigits (n : Nat) : natOfDigits? (Nat.toDigits 10 n) = some n := by
  have hall : (Nat.toDigits 10 n).all isDigit = true :=
    List.all_eq_true.mpr fun c hc => isDigit_of_mem_toDigits hc
  have hvalue := Nat.ofDigitChars_ten_toDigits (n := n)
  rw [Nat.ofDigitChars_eq_foldl] at hvalue
  rw [natOfDigits?, hall, hvalue]
  simp [Nat.toDigits_ne_nil]

/-- A digit is the one that its value is written as. -/
theorem digitChar_of_isDigit {c : Char} (hc : isDigit c = true) :
    c.toNat - '0'.toNat < 10 ∧ Nat.digitChar (c.toNat - '0'.toNat) = c := by
  have hrange := isDigit_iff.mp hc
  have hvalue : ∀ d, d < 10 → Nat.digitChar d = Char.ofNat (d + 48) := by decide
  have hzero : '0'.toNat = 48 := rfl
  have hlt : c.toNat - '0'.toNat < 10 := by omega
  have hback : c.toNat - '0'.toNat + 48 = c.toNat := by omega
  refine ⟨hlt, ?_⟩
  rw [hvalue _ hlt, hback, Char.ofNat_toNat]

/-- The last digit is counted once, and those in front of it ten times. -/
theorem natOfDigits?_append_singleton {s : List Char} {c : Char} {n : Nat} (hs : s ≠ [])
    (h : natOfDigits? (s ++ [c]) = some n) :
    isDigit c = true ∧ ∃ m, natOfDigits? s = some m ∧ n = 10 * m + (c.toNat - '0'.toNat) := by
  unfold natOfDigits? at h ⊢
  simp only [Option.ite_none_left_eq_some, Bool.or_eq_true, Bool.not_eq_true',
    List.foldl_append] at h
  obtain ⟨hall, hn⟩ := h
  have hdigits : s.all isDigit = true ∧ isDigit c = true := by simpa using hall
  refine ⟨hdigits.2, _, by simp [hs, hdigits.1], (Option.some.inj hn).symm⟩

/-- A text of digits that starts with no zero is what its number is written as. -/
theorem toDigits_of_natOfDigits? {s : List Char} {n : Nat} (h : natOfDigits? s = some n)
    (hzero : s.head? ≠ some '0') : Nat.toDigits 10 n = s := by
  induction hlength : s.length generalizing s n with
  | zero =>
      obtain rfl := List.length_eq_zero_iff.mp hlength
      cases h
  | succ k ih =>
      -- the last digit is taken off
      obtain ⟨init, c, rfl⟩ : ∃ init c, s = init ++ [c] := by
        rcases List.eq_nil_or_concat s with rfl | ⟨init, c, hs⟩
        · cases hlength
        · exact ⟨init, c, by rw [hs, List.concat_eq_append]⟩
      by_cases hinit : init = []
      · subst hinit
        obtain ⟨hc, rfl⟩ : isDigit c = true ∧ c.toNat - '0'.toNat = n := by
          simpa [natOfDigits?] using h
        obtain ⟨hlt, hchar⟩ := digitChar_of_isDigit hc
        rw [Nat.toDigits_of_lt_base hlt, hchar, List.nil_append]
      · obtain ⟨hc, m, hm, rfl⟩ := natOfDigits?_append_singleton hinit h
        obtain ⟨hlt, hchar⟩ := digitChar_of_isDigit hc
        have hhead : init.head? ≠ some '0' := by
          obtain ⟨d, rest, rfl⟩ := List.exists_cons_of_ne_nil hinit
          exact hzero
        have hwritten : Nat.toDigits 10 m = init := ih hm hhead (by simpa using hlength)
        have hpos : 0 < m := by
          refine Nat.pos_of_ne_zero ?_
          rintro rfl
          rw [← hwritten] at hhead
          exact hhead rfl
        have hquotient : (10 * m + (c.toNat - '0'.toNat)) / 10 = m := by omega
        have hrest : (10 * m + (c.toNat - '0'.toNat)) % 10 = c.toNat - '0'.toNat := by omega
        rw [Nat.toDigits_of_base_le (by omega) (by omega), hquotient, hrest, hwritten, hchar]

/-- Where no sign stands in front, a number is read as one without a sign. -/
theorem intOfDigits?_of_isDigit {c : Char} (hc : isDigit c = true) (s : List Char) :
    intOfDigits? (c :: s) = (natOfDigits? (c :: s)).map fun n => (n : Int) := by
  have hminus : c ≠ '-' := by
    rintro rfl
    exact absurd hc (by decide)
  have hplus : c ≠ '+' := by
    rintro rfl
    exact absurd hc (by decide)
  rw [intOfDigits?] <;> simp_all

/-- A number with a sign is read back. -/
theorem intOfDigits?_toString (k : Int) : intOfDigits? (toString k).toList = some k := by
  cases k with
  | ofNat n =>
      rw [toList_toString_ofNat]
      obtain ⟨c, s, hs⟩ := List.exists_cons_of_ne_nil (Nat.toDigits_ne_nil (b := 10) (n := n))
      have hc : isDigit c = true := isDigit_of_mem_toDigits (hs ▸ List.mem_cons_self)
      rw [hs, intOfDigits?_of_isDigit hc, ← hs, natOfDigits?_toDigits]
      rfl
  | negSucc n =>
      rw [toList_toString_negSucc, intOfDigits?, natOfDigits?_toDigits]
      rfl

/-- A number is read back if it fits in 64 bits with a sign, and is not read otherwise. -/
theorem int64OfDigits?_toString (k : Int) :
    int64OfDigits? (toString k).toList =
      if -2 ^ 63 ≤ k ∧ k < 2 ^ 63 then some k else none := by
  rw [int64OfDigits?, intOfDigits?_toString]
  simp [Option.filter]

/-- A number holds nothing but digits and a sign. -/
theorem of_mem_toString {k : Int} {c : Char} (h : c ∈ (toString k).toList) :
    c = '-' ∨ isDigit c = true := by
  cases k with
  | ofNat n =>
      rw [toList_toString_ofNat] at h
      exact .inr (isDigit_of_mem_toDigits h)
  | negSucc n =>
      rw [toList_toString_negSucc] at h
      exact (List.mem_cons.mp h).imp_right isDigit_of_mem_toDigits

end Ascii

end HttpSuite
