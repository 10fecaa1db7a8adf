/-
HttpSuite/Url/Address.lean

Numeric hosts. An address of version 4 is a number of 32 bits; it is written as one to four parts,
each decimal, octal or hexadecimal, of which the last stands for all bytes that are left. An address
of version 6 is eight pieces of 16 bits; two colons stand for pieces that are zero. Each is written
back in one form: four decimal bytes, and small hexadecimal pieces with the longest run of zeros
left out.
-/
import HttpSuite.Text.Ascii

namespace HttpSuite.Url

/-! ### Version 4 -/

/-- An address of version 4. -/
structure Address4 where
  value : UInt32
deriving DecidableEq, Repr, Inhabited

namespace Address4

/-- The four bytes of an address, the first one highest. -/
def bytes (a : Address4) : List Nat :=
  [24, 16, 8, 0].map fun shift => a.value.toNat / 2 ^ shift % 256

/-- The written form of an address. -/
def text (a : Address4) : String := String.intercalate "." (a.bytes.map toString)

/-- The base of the digits of a part, and the digits. -/
def digitsOf : List Char → Nat × List Char
  | '0' :: 'x' :: digits => (16, digits)
  | '0' :: 'X' :: digits => (16, digits)
  | '0' :: d :: digits => (8, d :: digits)
  | digits => (10, digits)

/-- The number of a part, if it is one; a base without digits is zero. -/
def part? (s : List Char) : Option Nat :=
  let (base, digits) := digitsOf s
  if s.isEmpty then none
  else
    digits.foldlM (fun n c =>
      match Ascii.hexValue? c with
      | some d => if d < base then some (n * base + d) else none
      | none => none) 0

/-- The parts of a host between points; an empty one at the end does not count. -/
def parts (host : List Char) : List (List Char) :=
  let l := host.splitOn '.'
  if 1 < l.length && l.getLast? = some [] then l.dropLast else l

/-- Whether the last part of a host is a number, so that the host has to be an address. -/
def isNumeric (host : List Char) : Bool :=
  match (parts host).getLast? with
  | none => false
  | some s => (!s.isEmpty && s.all Ascii.isDigit) || (part? s).isSome

/-- The number of a list of parts: bytes, and one more part for the bytes that are left. -/
def combine? : List Nat → Option Nat
  | [] => none
  | numbers =>
    let bytes := numbers.dropLast
    let last := numbers.getLast?.getD 0
    let room := 4 - bytes.length
    if bytes.length < 4 ∧ bytes.all (· < 256) ∧ last < 256 ^ room then
      some (bytes.foldl (fun n b => n * 256 + b) 0 * 256 ^ room + last)
    else none

/-- The address that a host writes. -/
def ofHost? (host : List Char) : Option Address4 := do
  let numbers ← (parts host).mapM part?
  let n ← combine? numbers
  pure ⟨n.toUInt32⟩

end Address4

/-! ### Version 6 -/

/-- An address of version 6. -/
structure Address6 where
  pieces : List Nat
  length_eq : pieces.length = 8
deriving DecidableEq, Repr

namespace Address6

/-- Small hexadecimal digits of a number. -/
def hex (n : Nat) : String := String.ofList (Nat.toDigits 16 n)

/-- How many pieces are zero from a place on. -/
def zerosFrom (pieces : List Nat) (i : Nat) : Nat := ((pieces.drop i).takeWhile (· = 0)).length

/-- Where the first of the longest runs of zeros starts. -/
def longestZeros (pieces : List Nat) : Nat :=
  (List.range pieces.length).foldl
    (fun best i => if zerosFrom pieces best < zerosFrom pieces i then i else best) 0

/-- The written form of an address, without the brackets around it. -/
def text (a : Address6) : String :=
  let start := longestZeros a.pieces
  let count := zerosFrom a.pieces start
  let write (l : List Nat) : String := String.intercalate ":" (l.map hex)
  if count < 2 then write a.pieces
  else write (a.pieces.take start) ++ "::" ++ write (a.pieces.drop (start + count))

/-- A byte in decimal digits without a leading zero. -/
def byte? (s : List Char) : Option Nat :=
  match Ascii.natOfDigits? s with
  | some n => if n < 256 ∧ (1 < s.length → s.head? ≠ some '0') then some n else none
  | none => none

/-- The two pieces that four decimal bytes write. -/
def bytePieces? (s : List Char) : Option (List Nat) :=
  match (s.splitOn '.').mapM byte? with
  | some [a, b, c, d] => some [a * 256 + b, c * 256 + d]
  | _ => none

/-- The number of hexadecimal digits. -/
def piece (digits : List Char) : Nat :=
  digits.foldl (fun n c => n * 16 + (Ascii.hexValue? c).getD 0) 0

/-- Pieces that have been read, and how many of them come before the two colons. -/
structure Pieces where
  read : List Nat := []
  gap : Option Nat := none

/-- How many pieces there are at least. -/
def Pieces.count (p : Pieces) : Nat := p.read.length + (if p.gap.isSome then 1 else 0)

/-- Reads pieces and the colons behind them. -/
def readPieces (s : List Char) (p : Pieces) : Option Pieces :=
  match s with
  | [] => some p
  | ':' :: rest =>
    if p.count = 8 ∨ p.gap.isSome then none
    else readPieces rest { p with gap := some p.read.length }
  | c :: s =>
    if p.count = 8 ∨ (Ascii.hexValue? c).isNone then none
    else
      let more := (s.take 3).takeWhile fun d => (Ascii.hexValue? d).isSome
      let next : Pieces := { p with read := p.read ++ [piece (c :: more)] }
      match h : s.drop more.length with
      | [] => some next
      | '.' :: _ =>
        if 6 < p.count then none
        else (bytePieces? (c :: s)).map fun l => { p with read := p.read ++ l }
      | ':' :: rest =>
        have shorter : rest.length < s.length := by
          have := congrArg List.length h
          simp at this
          omega
        if rest.isEmpty then none else readPieces rest next
      | _ => none
termination_by s.length

/-- The address of pieces. -/
def ofPieces? (p : Pieces) : Option Address6 :=
  let l :=
    match p.gap with
    | none => p.read
    | some n => p.read.take n ++ List.replicate (8 - p.read.length) 0 ++ p.read.drop n
  if h : l.length = 8 then some ⟨l, h⟩ else none

/-- The address that a text between brackets writes. -/
def ofText? (s : List Char) : Option Address6 :=
  match s with
  | ':' :: ':' :: rest => (readPieces rest { gap := some 0 }).bind ofPieces?
  | ':' :: _ => none
  | s => (readPieces s {}).bind ofPieces?

end Address6

end HttpSuite.Url
