/-
HttpSuite/Proofs/Variables/Offset.lean

Offsets of time, and how far they lead.  An offset is an amount, which is any number of 64 bits, and
a unit.  The amount goes another way for each kind of unit, with bounds of its own on the way:

    milliseconds   not the least number of 64 bits, which has no length
    seconds        multiplied by the seconds of the unit, in 64 bits, and then at most so many
                   seconds that their milliseconds have 64 bits
    months         multiplied by the months of the unit, in 64 bits, then made positive, without a
                   sign, and narrowed to 32 bits

Each operation is the exact one where it gives something (`Word.product?_eq_some_iff`,
`Word.toNat_magnitude`, `Word.narrow?_eq_some_iff`).  So all of these bounds come down to one bound
on the exact product of the amount and the extent of the unit, and nothing depends on which unit the
product was made with.

Main results: an offset leads exactly as far as the extent of its unit, so many times
(`TimeOffset.shift?_eq`), and a text of a number and a name is read as the offset that it means
(`TimeOffset.ofText?_append`).
-/
import HttpSuite.Variables.Offset
import HttpSuite.Proofs.Text.Decimal
import HttpSuite.Proofs.Text.Lines

namespace HttpSuite

/-! ### Numbers of fixed width -/

namespace Word

/-- A product that has 64 bits does not wrap around. -/
theorem toInt_mul_of_fits {a b : Int64}
    (h : -2 ^ 63 ≤ a.toInt * b.toInt ∧ a.toInt * b.toInt < 2 ^ 63) : (a * b).toInt = a.toInt * b.toInt := by
  rw [Int64.toInt_mul]
  exact Int.bmod_eq_of_le (by omega) (by omega)

/-- A product is given if it is the exact one. -/
theorem product?_eq_some_iff {a b c : Int64} :
    product? a b = some c ↔ c.toInt = a.toInt * b.toInt := by
  rw [product?, Option.ite_none_right_eq_some]
  constructor
  · rintro ⟨hfits, h⟩
    obtain rfl := Option.some.inj h
    exact toInt_mul_of_fits hfits
  · intro h
    have hfits := And.intro c.le_toInt c.toInt_lt
    rw [h] at hfits
    refine ⟨hfits, congrArg some (Int64.toInt_inj.mp ?_)⟩
    rw [toInt_mul_of_fits hfits, h]

/-- The absolute value of the least number has 64 bits without a sign, too. -/
theorem toNat_magnitude (a : Int64) : (magnitude a).toNat = a.toInt.natAbs := by
  have hlow := a.le_toInt
  have hhigh := a.toInt_lt
  have htoNat : (a.toUInt64.toNat : Int) = if a.toInt < 0 then a.toInt + 2 ^ 64 else a.toInt := by
    have := BitVec.toInt_eq_toNat_cond a.toBitVec
    have hlt := a.toUInt64.toNat_lt
    rw [show a.toUInt64.toNat = a.toBitVec.toNat from rfl] at hlt ⊢
    rw [show a.toInt = a.toBitVec.toInt from rfl]
    split at this
    · rw [if_neg (by omega)]
      omega
    · rw [if_pos (by omega)]
      omega
  rw [magnitude]
  by_cases h : a < 0
  · have hneg : a.toInt < 0 := Int64.lt_iff_toInt_lt.mp h
    rw [if_pos h, UInt64.toNat_neg]
    rw [if_pos hneg] at htoNat
    simp only [UInt64.size]
    omega
  · have hpos : ¬ a.toInt < 0 := fun hneg => h (Int64.lt_iff_toInt_lt.mpr hneg)
    rw [if_neg h]
    rw [if_neg hpos] at htoNat
    omega

/-- A number is narrowed if it stays the same. -/
theorem narrow?_eq_some_iff {n : UInt64} {m : UInt32} :
    narrow? n = some m ↔ m.toNat = n.toNat := by
  rw [narrow?, Option.ite_none_right_eq_some]
  constructor
  · rintro ⟨hlt, h⟩
    obtain rfl := Option.some.inj h
    rw [UInt64.toNat_toUInt32]
    exact Nat.mod_eq_of_lt hlt
  · intro h
    have hlt := m.toNat_lt
    rw [h] at hlt
    refine ⟨hlt, congrArg some (UInt32.toNat_inj.mp ?_)⟩
    rw [UInt64.toNat_toUInt32, h]
    exact Nat.mod_eq_of_lt hlt

end Word

/-! ### Extents -/

/-- How far an offset leads: so many milliseconds on, or so many months on in the calendar. -/
inductive Extent where
  | length (millis : Int)
  | months (count : Int)
deriving DecidableEq

namespace Extent

/-- So many times an extent. -/
def times (n : Int) : Extent → Extent
  | length millis => length (n * millis)
  | months count => months (n * count)

/-- The instant that an extent leads to. A length has to be one that 64 bits can count in both
directions, a number of months has 32 bits besides its sign. -/
def after? (instant : Int) : Extent → Option Int
  | length millis =>
    if millis.natAbs ≤ 2 ^ 63 - 1 then Calendar.within? (instant + millis) else none
  | months count =>
    if count.natAbs < 2 ^ 32 then Calendar.shiftMonths? instant count else none

end Extent

/-- A length of time that exists exactly as a number of milliseconds leads that far. -/
theorem TimeSpan.bind_after?_eq {span? : Option TimeSpan} {millis : Int}
    (h : ∀ span, span? = some span ↔ span.millis = millis) (instant : Int) :
    span?.bind (·.after? instant) = (Extent.length millis).after? instant := by
  rw [Extent.after?]
  by_cases hbound : millis.natAbs ≤ 2 ^ 63 - 1
  · rw [if_pos hbound, (h ⟨millis, hbound⟩).mpr rfl, Option.bind_some, after?]
  · -- the bound on lengths is part of them
    have hnone : span? = none := by
      apply Option.eq_none_iff_forall_ne_some.mpr
      intro span hspan
      apply hbound
      rw [← (h span).mp hspan]
      exact span.bounded
    rw [if_neg hbound, hnone, Option.bind_none]

/-- A length of time is given where it is bounded, and then it is this one. -/
theorem TimeSpan.dite_eq_some_iff {p : Prop} [Decidable p] {millis : Int}
    (hp : p ↔ millis.natAbs ≤ 2 ^ 63 - 1) {span : TimeSpan} :
    (if h : p then some ⟨millis, hp.mp h⟩ else none) = some span ↔ span.millis = millis := by
  obtain ⟨millis', hbound⟩ := span
  constructor
  · intro h
    split at h
    · exact (congrArg TimeSpan.millis (Option.some.inj h)).symm
    · cases h
  · rintro rfl
    rw [dif_pos (hp.mpr hbound)]

theorem TimeSpan.ofMillis?_eq_some_iff {n : Int64} {span : TimeSpan} :
    ofMillis? n = some span ↔ span.millis = n.toInt := by
  have hhigh := n.toInt_lt
  exact dite_eq_some_iff (by omega)

theorem TimeSpan.ofSeconds?_eq_some_iff {n : Int64} {span : TimeSpan} :
    ofSeconds? n = some span ↔ span.millis = n.toInt * 1000 :=
  dite_eq_some_iff (by omega)

/-- A number of seconds that is a product leads as far as its exact value. -/
theorem TimeSpan.bind_ofSeconds?_eq_some_iff {n count : Int64} {span : TimeSpan} :
    (Word.product? n count).bind ofSeconds? = some span ↔
      span.millis = n.toInt * (count.toInt * 1000) := by
  rw [Option.bind_eq_some_iff]
  constructor
  · rintro ⟨seconds, hseconds, hspan⟩
    rw [ofSeconds?_eq_some_iff.mp hspan, Word.product?_eq_some_iff.mp hseconds, Int.mul_assoc]
  · intro h
    -- the bound on the milliseconds is one on the seconds, too
    have hbound := span.bounded
    rw [h, ← Int.mul_assoc] at hbound
    have hproduct := Word.toInt_mul_of_fits (by omega : -2 ^ 63 ≤ n.toInt * count.toInt ∧ _)
    refine ⟨n * count, Word.product?_eq_some_iff.mpr hproduct, ?_⟩
    rw [ofSeconds?_eq_some_iff, hproduct, h, Int.mul_assoc]

/-- Months are moved by as many as are asked for, if these have 32 bits besides their sign. -/
theorem TimeOffset.shiftMonths?_eq (instant : Int) (amount : Int64) :
    shiftMonths? instant amount = (Extent.months amount.toInt).after? instant := by
  have hmagnitude := Word.toNat_magnitude amount
  rw [shiftMonths?, Extent.after?]
  by_cases hbound : amount.toInt.natAbs < 2 ^ 32
  · have hnarrow : Word.narrow? (Word.magnitude amount) =
        some (UInt32.ofNat amount.toInt.natAbs) := by
      rw [Word.narrow?_eq_some_iff, hmagnitude]
      exact UInt32.toNat_ofNat_of_lt' hbound
    rw [if_pos hbound, hnarrow, Option.bind_some, UInt32.toNat_ofNat_of_lt' hbound]
    -- the sign that was taken off decides where the months are moved to
    by_cases hneg : amount < 0
    · have hneg' : amount.toInt < 0 := Int64.lt_iff_toInt_lt.mp hneg
      rw [if_pos hneg]
      apply congrArg
      omega
    · have hpos : ¬ amount.toInt < 0 := fun h => hneg (Int64.lt_iff_toInt_lt.mpr h)
      rw [if_neg hneg]
      apply congrArg
      omega
  · have hnone : Word.narrow? (Word.magnitude amount) = none := by
      apply Option.eq_none_iff_forall_ne_some.mpr
      intro months hmonths
      apply hbound
      rw [← hmagnitude, ← Word.narrow?_eq_some_iff.mp hmonths]
      exact months.toNat_lt
    rw [if_neg hbound, hnone, Option.bind_none]

/-- A product of months leads as far as its exact value. -/
theorem TimeOffset.bind_shiftMonths?_eq (instant : Int) (n count : Int64) :
    (Word.product? n count).bind (shiftMonths? instant) =
      (Extent.months (n.toInt * count.toInt)).after? instant := by
  cases hproduct : Word.product? n count with
  | some months =>
      rw [Option.bind_some, shiftMonths?_eq, Word.product?_eq_some_iff.mp hproduct]
  | none =>
      -- a product that does not have 64 bits is no number of months, either
      have hbound : ¬ (n.toInt * count.toInt).natAbs < 2 ^ 32 := by
        intro hbound
        have hexact := Word.toInt_mul_of_fits (by omega : -2 ^ 63 ≤ n.toInt * count.toInt ∧ _)
        rw [Word.product?_eq_some_iff.mpr hexact] at hproduct
        cases hproduct
      rw [Option.bind_none, Extent.after?, if_neg hbound]

/-- How far a unit leads. -/
def TimeUnit.extent : TimeUnit → Extent
  | millisecond => .length 1
  | seconds count => .length (count.toInt * 1000)
  | months count => .months count.toInt

/-- An offset leads exactly as far as its amount of units. -/
theorem TimeOffset.shift?_eq (offset : TimeOffset) (instant : Int) :
    offset.shift? instant = (offset.unit.extent.times offset.amount.toInt).after? instant := by
  obtain ⟨amount, unit⟩ := offset
  cases unit with
  | millisecond =>
      apply TimeSpan.bind_after?_eq
      intro span
      rw [TimeSpan.ofMillis?_eq_some_iff, Int.mul_one]
  | seconds count =>
      apply TimeSpan.bind_after?_eq
      intro span
      exact TimeSpan.bind_ofSeconds?_eq_some_iff
  | months count => exact bind_shiftMonths?_eq instant amount count

/-! ### Names of units -/

/-- The extents of units by their names in small letters. -/
def TimeUnit.extents : List (List String × Extent) :=
  [(["ms", "millisecond", "milliseconds"], .length 1),
    (["s", "sec", "second", "seconds"], .length 1000),
    (["m", "min", "minute", "minutes"], .length (60 * 1000)),
    (["h", "hour", "hours"], .length (60 * 60 * 1000)),
    (["d", "day", "days"], .length (24 * 60 * 60 * 1000)),
    (["w", "week", "weeks"], .length (7 * 24 * 60 * 60 * 1000)),
    (["month", "months"], .months 1),
    (["y", "year", "years"], .months 12)]

/-- `Means name extent`: a unit of the name has the extent. The case of letters does not count, but
a lone `M` is a month. -/
inductive TimeUnit.Means (name : String) : Extent → Prop
  | month : name = "M" → Means name (.months 1)
  | named {names extent} : name ≠ "M" → (names, extent) ∈ extents →
      String.ofList (Ascii.lower name.toList) ∈ names → Means name extent

theorem Ascii.eq_of_lower_eq_m {s : List Char} (h : lower s = ['m']) : s = ['m'] ∨ s = ['M'] := by
  obtain ⟨c, rfl, hc⟩ : ∃ c, s = [c] ∧ lowerChar c = 'm' := by
    simpa [lower, List.map_eq_singleton_iff] using h
  rcases lowerChar_eq_or c with hsame | ⟨i, rfl⟩
  · exact .inl (by rw [← hsame, hc])
  · have hall : ∀ i : Fin 26,
        lowerChar (Char.ofNat (65 + i)) = 'm' → Char.ofNat (65 + i) = 'M' := by
      decide
    exact .inr (by rw [hall i hc])

/-- The unit of a name has the extent that the name means. -/
theorem TimeUnit.Means.exists_unit {name : String} {extent : Extent} (h : Means name extent) :
    ∃ unit, ofName? name.toList = some unit ∧ unit.extent = extent := by
  cases h with
  | month hname =>
      obtain rfl := hname
      exact ⟨months 1, rfl, rfl⟩
  | @named names _ hne hmem hsmall =>
      have hne' : name.toList ≠ ['M'] := fun h => hne (String.toList_inj.mp h)
      rw [ofName?, if_neg hne']
      by_cases hm : name.toList = ['m']
      · have hminute : ∀ entry ∈ extents, "m" ∈ entry.1 → entry.2 = .length 60000 := by decide
        rw [if_pos hm]
        rw [hm] at hsmall
        exact ⟨seconds 60, rfl, (hminute _ hmem hsmall).symm⟩
      · have hother : String.ofList (Ascii.lower name.toList) ≠ "m" := by
          intro h
          have hlower : Ascii.lower name.toList = ['m'] := String.ofList_inj.mp h
          exact (Ascii.eq_of_lower_eq_m hlower).elim hm hne'
        have hfound : ∀ entry ∈ extents, ∀ small ∈ entry.1, small ≠ "m" →
            ((TimeUnit.named.find? fun unit => unit.1.contains small).map (·.2.extent)) =
              some entry.2 := by
          decide
        obtain ⟨⟨_, unit⟩, hfind, hextent⟩ :=
          Option.map_eq_some_iff.mp (hfound _ hmem _ hsmall hother)
        refine ⟨unit, ?_, hextent⟩
        rw [if_neg hm]
        exact congrArg (Option.map (·.2)) hfind

/-- The name of a unit is made up of letters. -/
theorem TimeUnit.Means.letters {name : String} {extent : Extent} (h : Means name extent) :
    name.toList ≠ [] ∧ ∀ c ∈ name.toList, Ascii.isLetter c = true := by
  cases h with
  | month hname =>
      obtain rfl := hname
      exact ⟨by decide, List.all_eq_true.mp rfl⟩
  | @named names _ hne hmem hsmall =>
      have hall : ∀ entry ∈ extents, ∀ small ∈ entry.1,
          small.toList ≠ [] ∧ small.toList.all Ascii.isLetter = true := by
        decide
      obtain ⟨hne', hletters⟩ := hall _ hmem _ hsmall
      rw [String.toList_ofList, Ascii.lower] at hne' hletters
      constructor
      · intro hnil
        apply hne'
        rw [hnil]
        rfl
      · intro c hc
        rw [← Ascii.isLetter_lowerChar]
        exact List.all_eq_true.mp hletters _ (List.mem_map_of_mem hc)

/-! ### Written offsets -/

/-- `Numeral n number`: the number is written in decimal digits, behind a minus sign if it is
negative; a plus sign may stand in front of it if it is not. -/
inductive Numeral (n : Int) : String → Prop
  | plain : Numeral n (toString n)
  | plus : 0 ≤ n → Numeral n ("+" ++ toString n)

/-- `Writes n name text`: the text is a number, blanks or none of them, and a name. -/
inductive TimeOffset.Writes (n : Int64) (name : String) : String → Prop
  | intro {number gap : String} : Numeral n.toInt number →
      (∀ b ∈ gap.toList, Text.isBlank b = true) → Writes n name (number ++ gap ++ name)

/-- A number is a sign or none and digits, and is read back. -/
theorem Numeral.exists_digits {n : Int} {number : String} (h : Numeral n number) :
    Ascii.intOfDigits? number.toList = some n ∧ ∃ sign digits, number.toList = sign ++ digits ∧
      (∀ c ∈ sign, TimeOffset.isSign c = true) ∧ digits ≠ [] ∧
        ∀ c ∈ digits, Ascii.isDigit c = true := by
  cases h with
  | plain =>
      refine ⟨Ascii.intOfDigits?_toString n, ?_⟩
      cases n with
      | ofNat n =>
          refine ⟨[], Nat.toDigits 10 n, Ascii.toList_toString_ofNat n, by simp,
            Nat.toDigits_ne_nil, fun c hc => Ascii.isDigit_of_mem_toDigits hc⟩
      | negSucc n =>
          refine ⟨['-'], Nat.toDigits 10 (n + 1), Ascii.toList_toString_negSucc n,
            List.all_eq_true.mp rfl, Nat.toDigits_ne_nil, fun c hc => Ascii.isDigit_of_mem_toDigits hc⟩
  | plus hpos =>
      obtain ⟨n, rfl⟩ := Int.eq_ofNat_of_zero_le hpos
      have hlist : ("+" ++ toString (n : Int)).toList = '+' :: Nat.toDigits 10 n := by
        rw [String.toList_append]
        exact congrArg ('+' :: ·) (Ascii.toList_toString_ofNat n)
      rw [hlist]
      refine ⟨?_, ['+'], Nat.toDigits 10 n, rfl, List.all_eq_true.mp rfl, Nat.toDigits_ne_nil,
        fun c hc => Ascii.isDigit_of_mem_toDigits hc⟩
      rw [Ascii.intOfDigits?, Ascii.natOfDigits?_toDigits]
      rfl

/-- A text is cut where the characters of its front end. -/
theorem Text.cut_append {p : Char → Bool} {front : List Char} (hfront : ∀ c ∈ front, p c = true)
    (rest : List Char) (hrest : ∀ c, rest.head? = some c → p c = false) :
    (front ++ rest).takeWhile p = front ∧ (front ++ rest).dropWhile p = rest := by
  rw [List.takeWhile_append_of_pos hfront, List.dropWhile_append_of_pos hfront]
  cases rest with
  | nil => exact ⟨List.append_nil front, rfl⟩
  | cons c rest =>
      have hc : p c = false := hrest c rfl
      rw [List.takeWhile_cons_of_neg (by simp [hc]), List.dropWhile_cons_of_neg (by simp [hc])]
      exact ⟨List.append_nil front, rfl⟩

theorem TimeOffset.isSign_iff {c : Char} : isSign c = true ↔ c.toNat = 43 ∨ c.toNat = 45 := by
  rw [isSign, Bool.or_eq_true, beq_iff_eq, beq_iff_eq, ← Char.toNat_inj, ← Char.toNat_inj]
  rfl

/-- A number, blanks and the name of a unit are read as so many of these units. -/
theorem TimeOffset.ofText?_append {n : Int64} {number name : String} {extent : Extent}
    (hn : Numeral n.toInt number) {gap : List Char} (hgap : ∀ b ∈ gap, Text.isBlank b = true)
    (hname : TimeUnit.Means name extent) :
    ∃ unit, unit.extent = extent ∧
      ofText? (number.toList ++ gap ++ name.toList) = some ⟨n, unit⟩ := by
  obtain ⟨unit, hunit, hextent⟩ := hname.exists_unit
  obtain ⟨hne, hletters⟩ := hname.letters
  obtain ⟨hvalue, sign, digits, hnumber, hsign, hdigits, hall⟩ := hn.exists_digits
  obtain ⟨d, t, hdigits'⟩ := List.exists_cons_of_ne_nil hdigits
  obtain ⟨c, s, hname'⟩ := List.exists_cons_of_ne_nil hne
  have hc := Ascii.isLetter_iff.mp (hletters c (hname' ▸ List.mem_cons_self))
  refine ⟨unit, hextent, ?_⟩
  -- the sign ends before a digit, the digits before a blank or a letter, the blanks before a letter
  have hcutSign := Text.cut_append hsign (digits ++ (gap ++ name.toList)) fun b hb => by
    obtain rfl : d = b := by simpa [hdigits'] using hb
    have hd := Ascii.isDigit_iff.mp (hall d (hdigits' ▸ List.mem_cons_self))
    rw [← Bool.not_eq_true, isSign_iff]
    omega
  have hcutDigits := Text.cut_append hall (gap ++ name.toList) fun b hb => by
    rw [← Bool.not_eq_true, Ascii.isDigit_iff]
    rintro ⟨hlow, hhigh⟩
    have hplain := Text.isBlank_of_toNat (by omega) (by omega : b.toNat ≤ 132)
    rw [List.head?_append, Option.or_eq_some_iff] at hb
    rcases hb with hb | ⟨-, hb⟩
    · rw [hgap b (List.mem_of_head? hb)] at hplain
      cases hplain
    · obtain rfl : c = b := by simpa [hname'] using hb
      omega
  have hcutGap := Text.cut_append hgap name.toList fun b hb => by
    obtain rfl : c = b := by simpa [hname'] using hb
    exact Text.isBlank_of_toNat (by omega) (by omega)
  have hvalue64 : Ascii.int64OfDigits? (sign ++ digits) = some n.toInt := by
    rw [← hnumber, Ascii.int64OfDigits?, hvalue]
    simpa [Option.filter] using And.intro n.le_toInt n.toInt_lt
  have hletters' : (!name.toList.isEmpty && name.toList.all Ascii.isLetter) = true := by
    rw [Bool.and_eq_true, List.all_eq_true]
    exact ⟨by rw [hname']; rfl, hletters⟩
  rw [hnumber, List.append_assoc, List.append_assoc]
  simp only [ofText?, hcutSign, hcutDigits, hcutGap, hvalue64, hunit, hletters',
    if_true, Int64.ofInt_toInt]

end HttpSuite
