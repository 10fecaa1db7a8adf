/-
HttpSuite/Url/Punycode.lean

Names in ASCII. The characters of a label that lie outside of ASCII are written behind the others,
in ascending order of their numbers: each as the distance from the one before, counted through all
places of the label, in digits whose weights follow the sizes of the distances so far. No loop needs
a bound from outside: a distance shrinks with each digit that is written, and the text with each one
that is read.
-/
import HttpSuite.Text.Ascii

namespace HttpSuite.Url.Punycode

/-! ### Digits -/

/-- The digit of a value below 36: letters for the first 26. -/
def digit (d : Nat) : Char :=
  if d < 26 then Char.ofNat ('a'.toNat + d) else Char.ofNat ('0'.toNat + d - 26)

/-- The value of a digit. -/
def value? (c : Char) : Option Nat :=
  if 'a' ≤ c ∧ c ≤ 'z' then some (c.toNat - 'a'.toNat)
  else if 'A' ≤ c ∧ c ≤ 'Z' then some (c.toNat - 'A'.toNat)
  else if '0' ≤ c ∧ c ≤ '9' then some (c.toNat - '0'.toNat + 26)
  else none

/-- The digits below this value end a number, at a place of weight `k`. -/
def threshold (k bias : Nat) : Nat := max 1 (min 26 (k - bias))

/-- Divides a distance until it is small, and counts the divisions. -/
def scale (delta count : Nat) : Nat × Nat :=
  if 455 < delta then scale (delta / 35) (count + 1) else (delta, count)
termination_by delta
decreasing_by exact Nat.div_lt_self (by omega) (by omega)

/-- The bias after a distance. -/
def adapt (delta points : Nat) (first : Bool) : Nat :=
  let delta := if first then delta / 700 else delta / 2
  let (delta, count) := scale (delta + delta / points) 0
  36 * count + 36 * delta / (delta + 38)

/-! ### Writing -/

/-- The digits of a distance. -/
def digits (bias k q : Nat) : List Char :=
  let t := threshold k bias
  if q < t then [digit q]
  else digit (t + (q - t) % (36 - t)) :: digits bias (k + 36) ((q - t) / (36 - t))
termination_by q
decreasing_by
  have h : 1 ≤ threshold k bias := Nat.le_max_left ..
  exact Nat.lt_of_le_of_lt (Nat.div_le_self ..) (by omega)

/-- What is written so far. -/
structure Writing where
  text : List Char := []
  delta : Nat := 0
  bias : Nat := 72
  /-- How many characters of the label are written. -/
  done : Nat

/-- Passes a character of the label while those with the number `n` are written. -/
def pass (basic n : Nat) (w : Writing) (c : Char) : Writing :=
  if c.toNat < n then { w with delta := w.delta + 1 }
  else if c.toNat = n then
    { text := w.text ++ digits w.bias 36 w.delta
      delta := 0
      bias := adapt w.delta (w.done + 1) (w.done = basic)
      done := w.done + 1 }
  else w

/-- Writes the characters with these numbers, which ascend from `n` on. -/
def writeAll (label : List Char) (basic : Nat) : (n : Nat) → List Nat → Writing → Writing
  | _, [], w => w
  | n, m :: rest, w =>
    let w := label.foldl (pass basic m) { w with delta := w.delta + (m - n) * (w.done + 1) }
    writeAll label basic (m + 1) rest { w with delta := w.delta + 1 }

/-- Puts a number at its place among ascending ones, once. -/
def placeOnce (n : Nat) : List Nat → List Nat
  | [] => [n]
  | m :: rest =>
    if n < m then n :: m :: rest
    else if n = m then m :: rest
    else m :: placeOnce n rest

/-- The label in ASCII. -/
def encode (label : List Char) : List Char :=
  let basic := label.filter (·.toNat < 0x80)
  let wide := (label.filter (0x80 ≤ ·.toNat)).map Char.toNat
  let mark := if basic.isEmpty then [] else ['-']
  basic ++ mark ++
    (writeAll label basic.length 0x80 (wide.foldr placeOnce []) { done := basic.length }).text

/-! ### Reading -/

/-- Reads a distance: what it adds to a place, and the digits behind it. -/
def readDistance (bias : Nat) : List Char → (k weight place : Nat) → Option (Nat × List Char)
  | [], _, _, _ => none
  | c :: rest, k, weight, place => do
    let d ← value? c
    let place := place + d * weight
    let t := threshold k bias
    if d < t then pure (place, rest)
    else readDistance bias rest (k + 36) (weight * (36 - t)) place

theorem length_readDistance {bias : Nat} {s rest : List Char} {k weight place p : Nat}
    (h : readDistance bias s k weight place = some (p, rest)) : rest.length < s.length := by
  induction s generalizing k weight place with
  | nil => simp [readDistance] at h
  | cons c s ih =>
    simp only [readDistance, Option.bind_eq_bind, Option.bind_eq_some_iff] at h
    obtain ⟨d, _, h⟩ := h
    split at h
    · obtain ⟨_, rfl⟩ : _ ∧ s = rest := by simpa using h
      simp
    · exact Nat.lt_succ_of_lt (ih h)

/-- Reads distances and puts their characters into a label. -/
def readAll (s label : List Char) (n place bias : Nat) (first : Bool) : Option (List Char) :=
  if s.isEmpty then some label
  else
    match h : readDistance bias s 36 1 place with
    | none => none
    | some (p, rest) =>
      let points := label.length + 1
      let n := n + p / points
      if n < 0xD800 ∨ (0xE000 ≤ n ∧ n < 0x110000) then
        have := length_readDistance h
        readAll rest (label.insertIdx (p % points) (Char.ofNat n)) n (p % points + 1)
          (adapt (p - place) points first) false
      else none
termination_by s.length

/-- The label that a text in ASCII writes. -/
def decode? (s : List Char) : Option (List Char) :=
  let tail := (s.reverse.takeWhile (· ≠ '-')).reverse
  let basic := s.take (s.length - tail.length - 1)
  if basic.isEmpty then readAll s [] 0x80 0 72 true else readAll tail basic 0x80 0 72 true

end HttpSuite.Url.Punycode
