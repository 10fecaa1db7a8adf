/-
HttpSuite/Proofs/Number/Order.lean

The order of the numbers and their distance. Asked the other way round, `compare?` answers the
other way round (`compare?_swap`). The distance `(x.sub y).abs` is computed by one rounding of the
exact difference, and the rounding looks at the sign last, so that the distance is the same from
both sides (`abs_sub_comm`). Finite numbers that compare as equal have distance zero
(`abs_sub_of_equal`). Equal infinities compare as equal too, but their difference is no number, and
this is why the last lemma is about finite numbers alone.
-/
import HttpSuite.Number.Binary64

namespace HttpSuite.Binary64

variable {x y : Binary64}

/-! ### The order, asked the other way round -/

/-- The order of `y` and `x` is the order of `x` and `y`, turned. -/
theorem compare?_swap (x y : Binary64) :
    compare? y x = (compare? x y).map Ordering.swap := by
  rcases x with - | s | ⟨s, m, e⟩ <;> rcases y with - | t | ⟨t, n, f⟩
  case infinite.infinite =>
    show some (compare s t) = some (compare t s).swap
    rw [Std.OrientedOrd.eq_swap]
  case finite.finite =>
    -- Both sides count in units of the lesser exponent, which is the same from both sides.
    have hmin : min f e = min e f := Int.min_comm f e
    simp only [compare?, hmin, Option.map_some, Option.some.injEq]
    exact Std.OrientedOrd.eq_swap
  case infinite.finite => cases s <;> rfl
  case finite.infinite => cases t <;> rfl
  all_goals rfl

/-- A number that has an order with itself is equal to itself. -/
theorem compare?_self {o : Ordering} (h : compare? x x = some o) : o = .eq := by
  have hswap := compare?_swap x x
  rw [h, Option.map_some, Option.some.injEq] at hswap
  cases o with
  | eq => rfl
  | lt => nomatch hswap
  | gt => nomatch hswap

/-! ### The distance from both sides -/

/-- A count of units changes its sign with the number. -/
theorem unitsOf_not (s : Bool) (m : Nat) (e target : Int) :
    unitsOf (!s) m e target = -unitsOf s m e target := by
  cases s <;> simp [unitsOf]

/-- Rounding is the same on both sides of zero. -/
theorem abs_round (s t : Bool) (num den : Nat) :
    (round s num den).abs = (round t num den).abs := by
  unfold round
  by_cases hnum : num = 0
  · simp only [if_pos hnum, signedZero, abs]
  · simp only [if_neg hnum]
    split <;> split <;> rfl

theorem abs_roundScaled (s t : Bool) (num : Nat) (e : Int) :
    (roundScaled s num e).abs = (roundScaled t num e).abs := by
  unfold roundScaled
  split
  · exact abs_round s t _ _
  · exact abs_round s t _ _

/-- Opposite counts of units are at the same distance from zero. -/
theorem abs_ofUnits_neg (s t : Bool) (n e : Int) :
    (ofUnits s (-n) e).abs = (ofUnits t n e).abs := by
  unfold ofUnits
  by_cases hn : n = 0
  · simp only [hn, Int.neg_zero, if_true, signedZero, abs]
  · have hneg : -n ≠ 0 := Int.neg_ne_zero.mpr hn
    simp only [if_neg hn, if_neg hneg, Int.natAbs_neg]
    exact abs_roundScaled _ _ _ _

/-- The difference of finite numbers is one rounding of the exact difference. -/
theorem sub_finite (s t : Bool) (m n : Nat) (e f : Int) :
    (finite s m e).sub (finite t n f) =
      ofUnits (s && !t) (unitsOf s m e (min e f) - unitsOf t n f (min e f)) (min e f) := by
  simp only [sub, neg, add, unitsOf_not, Int.sub_eq_add_neg]

/-- **The distance is the same from both sides.** -/
theorem abs_sub_comm (x y : Binary64) : (x.sub y).abs = (y.sub x).abs := by
  rcases x with - | s | ⟨s, m, e⟩ <;> rcases y with - | t | ⟨t, n, f⟩
  case infinite.infinite => cases s <;> cases t <;> rfl
  case finite.finite =>
    rw [sub_finite, sub_finite, Int.min_comm f e, ← Int.neg_sub]
    exact abs_ofUnits_neg _ _ _ _
  all_goals rfl

/-! ### Numbers that compare as equal -/

/-- The number is neither infinite nor `nan`. -/
def IsFinite (x : Binary64) : Prop := ∃ s m e, x = finite s m e

/-- Numbers that compare as equal are the same infinity, or both are finite. -/
theorem infinite_or_finite_of_equal (h : x.equal y = true) :
    (∃ s, x = infinite s ∧ y = infinite s) ∨ (x.IsFinite ∧ y.IsFinite) := by
  rcases x with - | s | ⟨s, m, e⟩ <;> rcases y with - | t | ⟨t, n, f⟩
  case infinite.infinite => cases s <;> cases t <;> simp_all [equal, compare?]
  case finite.finite => exact .inr ⟨⟨s, m, e, rfl⟩, ⟨t, n, f, rfl⟩⟩
  case infinite.finite => cases s <;> simp [equal, compare?] at h
  case finite.infinite => cases t <;> simp [equal, compare?] at h
  all_goals simp [equal, compare?] at h

/-- Finite numbers that compare as equal have distance zero. -/
theorem abs_sub_of_equal (hx : x.IsFinite) (hy : y.IsFinite) (h : x.equal y = true) :
    (x.sub y).abs = zero := by
  obtain ⟨s, m, e, rfl⟩ := hx
  obtain ⟨t, n, f, rfl⟩ := hy
  have hunits : unitsOf s m e (min e f) = unitsOf t n f (min e f) := by
    simpa [equal, compare?] using h
  rw [sub_finite, hunits, Int.sub_self]
  rfl

end HttpSuite.Binary64
