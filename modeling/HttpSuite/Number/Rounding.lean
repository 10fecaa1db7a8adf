/-
HttpSuite/Number/Rounding.lean

Whole numbers near a number, and roots and powers. All of them are computed exactly and rounded
once.
-/
import HttpSuite.Number.Binary64

namespace HttpSuite.Binary64

/-- A whole number with a sign for zero. -/
def ofIntSigned (zeroNegative : Bool) (n : Int) : Binary64 :=
  if n = 0 then signedZero zeroNegative else ofInt n

/-- The number cut to a whole one, toward zero. -/
def truncate : Binary64 → Binary64
  | finite s m e =>
    match truncate? (finite s m e) with
    | some n => ofIntSigned s n
    | none => nan
  | x => x

/-- The greatest whole number that is not above. -/
def floor : Binary64 → Binary64
  | finite s m e =>
    if 0 ≤ e then finite s m e
    else ofIntSigned s ((if s then -(m : Int) else m) / (2 ^ (-e).toNat : Nat))
  | x => x

/-- The least whole number that is not below. -/
def ceil (x : Binary64) : Binary64 := (floor x.neg).neg

/-- The nearest whole number, of two the greater one. -/
def roundHalfUp : Binary64 → Binary64
  | finite s m e =>
    if 0 ≤ e then finite s m e
    else
      let d : Nat := 2 ^ (-e).toNat
      ofIntSigned s ((2 * (if s then -(m : Int) else m) + d) / (2 * d : Nat))
  | x => x

/-- The whole number whose square is next below. -/
def rootBelow (n : Nat) : Nat :=
  let rec go : (bits : Nat) → (root : Nat) → Nat
    | 0, root => root
    | bits + 1, root =>
      let next := root + 2 ^ bits
      if next * next ≤ n then go bits next else go bits root
  go (n.log2 / 2 + 1) 0

/-- The square root. -/
def sqrt : Binary64 → Binary64
  | nan => nan
  | infinite s => if s then nan else infinite false
  | finite s m e =>
    if m = 0 then finite s m e
    else if s then nan
    else
      let k : Nat := if e % 2 = 0 then 120 else 121
      let scaled := m * 2 ^ k
      let r := rootBelow scaled
      let sticky := if r * r = scaled then 2 * r else 2 * r + 1
      roundScaled false sticky ((e - k) / 2 - 1)

/-- A power with a whole exponent that is not negative. -/
def powNat (x : Binary64) (n : Nat) : Binary64 :=
  match x with
  | nan => if n = 0 then ofInt 1 else nan
  | infinite s => if n = 0 then ofInt 1 else infinite (s && n % 2 = 1)
  | finite s m e =>
    let negative := s && n % 2 = 1
    if n = 0 then ofInt 1
    else if m = 0 then signedZero negative
    else if 5000 < n then
      if m * 2 ^ e.toNat = 2 ^ (-e).toNat then ofIntSigned negative (if negative then -1 else 1)
      else if m * 2 ^ e.toNat < 2 ^ (-e).toNat then signedZero negative
      else infinite negative
    else roundScaled negative (m ^ n) (e * n)

/-- A power. The exponent is whole or a half; no other one is known. -/
def pow (x y : Binary64) : Binary64 :=
  match y.toInt? with
  | some (.ofNat n) => powNat x n
  | some (.negSucc n) =>
    match x with
    | finite s m e =>
      if m = 0 then infinite (s && (n + 1) % 2 = 1)
      else
        let negative := s && (n + 1) % 2 = 1
        if 5000 < n then (ofInt 1).div (powNat x (n + 1))
        else
          let scaled := m ^ (n + 1)
          let k := e * (n + 1)
          if 0 ≤ k then round negative 1 (scaled * 2 ^ k.toNat)
          else round negative (2 ^ (-k).toNat) scaled
    | _ => (ofInt 1).div (powNat x (n + 1))
  | none =>
    match y with
    | infinite up =>
      match compare? x.abs (ofInt 1) with
      | some .eq | none => nan
      | some o => if (o = .gt) = !up then infinite false else zero
    | _ =>
      if y.equal (round false 1 2) then x.sqrt
      else if y.equal (round true 1 2) then (ofInt 1).div x.sqrt
      else nan

end HttpSuite.Binary64
