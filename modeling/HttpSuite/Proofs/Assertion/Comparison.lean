/-
HttpSuite/Proofs/Assertion/Comparison.lean

The operators of assertions against each other. Equality and order look at the scalars in two
ways: two strings are equal by their text, and numbers are equal when they are near to each other,
while the order is always that of the exact numbers. So `<`, `<=`, `>=` and `>` agree among
themselves for all scalars that have an order (`holds_of_order`), and `==` fits in with them

    exactly one of  a < b,  a == b,  a > b

just when `==` answers as the exact numbers do (`isTrichotomous_iff`). `Blurred` names the two
kinds of pairs for which it does not, and the main result, `comparison_laws`, is that there are no
others, equal infinities aside.
-/
import HttpSuite.Assertion.Value
import HttpSuite.Proofs.Number.Order

namespace HttpSuite.Assertion

variable {a b : Value} {o : Ordering} {x y : Binary64}

/-! ### Equality -/

namespace Value

/-- The scalar is a string. -/
def IsString (v : Value) : Prop := ∃ s, v = .string s

theorem near_comm (x y : Binary64) : near x y = near y x := by
  unfold near
  rw [Binary64.abs_sub_comm]

/-- Numbers without a distance are near to each other. -/
theorem near_of_equal (hx : x.IsFinite) (hy : y.IsFinite) (h : x.equal y = true) :
    near x y = true := by
  unfold near
  rw [Binary64.abs_sub_of_equal hx hy h]
  decide +kernel

/-- `==` can be read from both sides. -/
theorem equal_comm (a b : Value) : a.equal b = b.equal a := by
  rcases a with x | s | p | - <;> rcases b with y | t | q | -
  case number.number => exact near_comm x y
  case number.string =>
    simp only [equal, number?]
    cases Binary64.ofText? (Text.trim t.toList) with
    | none => rfl
    | some y => exact near_comm x y
  case string.number =>
    simp only [equal, number?]
    cases Binary64.ofText? (Text.trim s.toList) with
    | none => rfl
    | some x => exact near_comm x y
  case string.string => simp only [equal, eq_comm]
  case bool.bool => simp only [equal, eq_comm]
  all_goals rfl

/-- Scalars that have numbers, not both as strings, are equal when the numbers are near. -/
theorem equal_eq_near (hs : ¬(a.IsString ∧ b.IsString)) (hx : a.number? = some x)
    (hy : b.number? = some y) : a.equal b = near x y := by
  rcases a with z | s | p | - <;> rcases b with w | t | q | -
  case string.string => exact absurd ⟨⟨s, rfl⟩, ⟨t, rfl⟩⟩ hs
  case number.number | number.string | string.number => simp only [equal, hx, hy]
  all_goals simp [number?] at hx hy

/-! ### The order -/

/-- Scalars have an order when both have numbers, and it is the order of the numbers. -/
theorem order_eq_ok_iff :
    a.order b = .ok o ↔
      ∃ x y, a.number? = some x ∧ b.number? = some y ∧ Binary64.compare? x y = some o := by
  unfold order
  constructor
  · intro h
    split at h
    · nomatch h
    · rename_i x hx
      split at h
      · nomatch h
      · rename_i y hy
        split at h
        · nomatch h
        · rename_i o' ho
          cases h
          exact ⟨x, y, hx, hy, ho⟩
  · rintro ⟨x, y, hx, hy, ho⟩
    simp only [hx, hy, ho]

/-- The order asked the other way round answers the other way round. -/
theorem order_swap (h : a.order b = .ok o) : b.order a = .ok o.swap := by
  obtain ⟨x, y, hx, hy, ho⟩ := order_eq_ok_iff.mp h
  refine order_eq_ok_iff.mpr ⟨y, x, hy, hx, ?_⟩
  rw [Binary64.compare?_swap, ho, Option.map_some]

/-! ### Pairs that equality and order see differently -/

/-- `Blurred a b`: equality and order see the scalars `a` and `b` differently. Two strings may
write one number in two ways, and two numbers may be near to each other and yet apart. -/
inductive Blurred : Value → Value → Prop
  | spelling {s t : String} {x y : Binary64} :
      s ≠ t → number? (string s) = some x → number? (string t) = some y →
      x.equal y = true → Blurred (string s) (string t)
  | nearness {a b : Value} {x y : Binary64} :
      ¬(a.IsString ∧ b.IsString) → a.number? = some x → b.number? = some y →
      near x y = true → x.equal y = false → Blurred a b

/-- `SameInfinity a b`: the scalars, not both strings, are the same infinity. -/
def SameInfinity (a b : Value) : Prop :=
  ¬(a.IsString ∧ b.IsString) ∧
    ∃ negative, a.number? = some (.infinite negative) ∧ b.number? = some (.infinite negative)

/-- Strings are blurred when they are two spellings of one number. -/
theorem blurred_string_iff {s t : String} (hx : number? (string s) = some x)
    (hy : number? (string t) = some y) :
    Blurred (string s) (string t) ↔ s ≠ t ∧ x.equal y = true := by
  constructor
  · rintro (⟨hne, hx', hy', he⟩ | ⟨hs, -⟩)
    · obtain rfl := Option.some.inj (hx'.symm.trans hx)
      obtain rfl := Option.some.inj (hy'.symm.trans hy)
      exact ⟨hne, he⟩
    · exact absurd ⟨⟨s, rfl⟩, ⟨t, rfl⟩⟩ hs
  · rintro ⟨hne, he⟩
    exact .spelling hne hx hy he

/-- Other scalars are blurred when their numbers are near and apart. -/
theorem blurred_number_iff (hs : ¬(a.IsString ∧ b.IsString)) (hx : a.number? = some x)
    (hy : b.number? = some y) : Blurred a b ↔ near x y = true ∧ x.equal y = false := by
  constructor
  · rintro (⟨-⟩ | ⟨-, hx', hy', hn, hne⟩)
    · exact absurd ⟨⟨_, rfl⟩, ⟨_, rfl⟩⟩ hs
    · obtain rfl := Option.some.inj (hx'.symm.trans hx)
      obtain rfl := Option.some.inj (hy'.symm.trans hy)
      exact ⟨hn, hne⟩
  · rintro ⟨hn, hne⟩
    exact .nearness hs hx hy hn hne

/-- Of scalars with an order, the blurred ones are those that `==` holds apart although the order
does not, or the other way round. -/
theorem blurred_iff (h : a.order b = .ok o) (hinf : ¬SameInfinity a b) :
    Blurred a b ↔ ¬(a.equal b = true ↔ o = .eq) := by
  obtain ⟨x, y, hx, hy, ho⟩ := order_eq_ok_iff.mp h
  have hxy : x.equal y = true ↔ o = .eq := by
    simp [Binary64.equal, ho]
  rw [← hxy]
  by_cases hs : a.IsString ∧ b.IsString
  · obtain ⟨⟨s, rfl⟩, ⟨t, rfl⟩⟩ := hs
    have hst : equal (string s) (string t) = true ↔ s = t := by simp [equal]
    -- One text writes one number, which is equal to itself.
    have hself : s = t → x.equal y = true := by
      rintro rfl
      obtain rfl := Option.some.inj (hx.symm.trans hy)
      exact hxy.mpr (Binary64.compare?_self ho)
    rw [blurred_string_iff hx hy, hst]
    grind
  · have hnear : x.equal y = true → near x y = true := by
      intro he
      obtain ⟨negative, rfl, rfl⟩ | ⟨hfx, hfy⟩ := Binary64.infinite_or_finite_of_equal he
      · exact absurd ⟨hs, negative, hx, hy⟩ hinf
      · exact near_of_equal hfx hfy he
    rw [blurred_number_iff hs hx hy, equal_eq_near hs hx hy]
    grind

end Value

/-! ### The operators -/

namespace Operator

/-- The operator holds between two scalars. -/
def Holds (op : Operator) (a b : Value) : Prop := op.holds a b = .ok true

theorem equal_holds_iff : equal.Holds a b ↔ a.equal b = true := by
  simp [Holds, holds]

/-- The operators that ask for an order, told by the order. -/
theorem holds_of_order (h : a.order b = .ok o) :
    (less.Holds a b ↔ o = .lt) ∧ (greater.Holds a b ↔ o = .gt) ∧
      (lessOrEqual.Holds a b ↔ o ≠ .gt) ∧ (greaterOrEqual.Holds a b ↔ o ≠ .lt) := by
  refine ⟨?_, ?_, ?_, ?_⟩ <;>
    simp only [Holds, holds, h, Except.map, Except.ok.injEq, accepts, decide_eq_true_eq]

end Operator

open Operator

/-- Exactly one of three statements holds. -/
def ExactlyOne (p q r : Prop) : Prop :=
  (p ∧ ¬q ∧ ¬r) ∨ (¬p ∧ q ∧ ¬r) ∨ (¬p ∧ ¬q ∧ r)

/-- `IsTrichotomous a b`: equality has its place between `<` and `>` for the scalars `a` and
`b`. -/
structure IsTrichotomous (a b : Value) : Prop where
  exactlyOne : ExactlyOne (less.Holds a b) (equal.Holds a b) (greater.Holds a b)
  lessOrEqual_iff : lessOrEqual.Holds a b ↔ less.Holds a b ∨ equal.Holds a b
  greaterOrEqual_iff : greaterOrEqual.Holds a b ↔ greater.Holds a b ∨ equal.Holds a b

/-- Equality has its place in the order just when it answers as the order does. -/
theorem isTrichotomous_iff (h : a.order b = .ok o) :
    IsTrichotomous a b ↔ (a.equal b = true ↔ o = .eq) := by
  obtain ⟨hlt, hgt, hle, hge⟩ := holds_of_order h
  constructor
  · intro hlaws
    have hone := hlaws.exactlyOne
    rw [hlt, hgt, equal_holds_iff] at hone
    rcases hone with ⟨ho, he, -⟩ | ⟨hnlt, he, hngt⟩ | ⟨-, he, ho⟩
    · simp [ho, he]
    · cases o <;> simp_all
    · simp [ho, he]
  · intro hiff
    constructor
    · rw [hlt, hgt, equal_holds_iff, hiff]
      cases o <;> simp [ExactlyOne]
    · rw [hle, hlt, equal_holds_iff, hiff]
      cases o <;> simp
    · rw [hge, hgt, equal_holds_iff, hiff]
      cases o <;> simp

/-- **How the comparisons fit together.** `!=` is the negation of `==`, and `==` is symmetric. For
scalars that have an order, `a < b` says the same as `b > a`, `<=` and `>=` are the negations of
`>` and `<`, and exactly one of `a < b`, `a <= b` with `a >= b`, and `a > b` holds; equality takes
the middle place, equal infinities aside, just when the pair is not blurred. -/
theorem comparison_laws (a b : Value) :
    (∃ p, equal.holds a b = .ok p ∧ equal.holds b a = .ok p ∧ notEqual.holds a b = .ok !p) ∧
    ∀ o, a.order b = .ok o →
      (less.Holds a b ↔ greater.Holds b a) ∧
      (lessOrEqual.Holds a b ↔ ¬greater.Holds a b) ∧
      (greaterOrEqual.Holds a b ↔ ¬less.Holds a b) ∧
      ExactlyOne (less.Holds a b) (lessOrEqual.Holds a b ∧ greaterOrEqual.Holds a b)
        (greater.Holds a b) ∧
      (¬a.SameInfinity b → (IsTrichotomous a b ↔ ¬a.Blurred b)) := by
  refine ⟨⟨a.equal b, rfl, ?_, rfl⟩, ?_⟩
  · show Except.ok (b.equal a) = .ok (a.equal b)
    rw [Value.equal_comm]
  intro o h
  obtain ⟨hlt, hgt, hle, hge⟩ := holds_of_order h
  obtain ⟨-, hgt', -, -⟩ := holds_of_order (Value.order_swap h)
  rw [hlt, hgt, hle, hge, hgt']
  refine ⟨Ordering.swap_eq_gt.symm, Iff.rfl, Iff.rfl, ?_, ?_⟩
  · cases o <;> simp [ExactlyOne]
  · intro hinf
    rw [isTrichotomous_iff h, Value.blurred_iff h hinf, Classical.not_not]

/-- A number and a string that writes another one. -/
theorem comparison_laws_one_two :
    Value.order (.number (.ofInt 1)) (.string "2") = .ok .lt ∧
      ¬Value.SameInfinity (.number (.ofInt 1)) (.string "2") ∧
      (IsTrichotomous (.number (.ofInt 1)) (.string "2") ↔
        ¬Value.Blurred (.number (.ofInt 1)) (.string "2")) := by
  have ho : Value.order (.number (.ofInt 1)) (.string "2") = .ok .lt := rfl
  have hinf : ¬Value.SameInfinity (.number (.ofInt 1)) (.string "2") := by
    rintro ⟨-, negative, h, -⟩
    revert h
    cases negative <;> decide +kernel
  obtain ⟨-, -, -, -, hlaws⟩ := (comparison_laws (.number (.ofInt 1)) (.string "2")).2 .lt ho
  exact ⟨ho, hinf, hlaws hinf⟩

/-- Two strings that write one number have an order, and none of `<`, `==`, `>` holds although `<=`
does. A string and a number that differ in the last place are in the relations `==` and `>` at
once. -/
theorem not_forall_isTrichotomous :
    (Value.order (.string "1") (.string "1.0") = .ok .eq ∧
      ¬less.Holds (.string "1") (.string "1.0") ∧
      ¬equal.Holds (.string "1") (.string "1.0") ∧
      ¬greater.Holds (.string "1") (.string "1.0") ∧
      lessOrEqual.Holds (.string "1") (.string "1.0")) ∧
    (equal.Holds (.string "0.30000000000000004") (.number (.ofDecimal false 3 (-1))) ∧
      greater.Holds (.string "0.30000000000000004") (.number (.ofDecimal false 3 (-1)))) ∧
    ¬∀ a b o, Value.order a b = .ok o → IsTrichotomous a b := by
  have ho : Value.order (.string "1") (.string "1.0") = .ok .eq := rfl
  have he : ¬Value.equal (.string "1") (.string "1.0") = true := by decide
  obtain ⟨hlt, hgt, hle, -⟩ := holds_of_order ho
  refine ⟨⟨ho, by simp [hlt], mt equal_holds_iff.mp he, by simp [hgt], by simp [hle]⟩,
    ⟨rfl, rfl⟩, ?_⟩
  intro hall
  have hiff := (isTrichotomous_iff ho).mp (hall _ _ _ ho)
  exact he (hiff.mpr rfl)

end HttpSuite.Assertion
