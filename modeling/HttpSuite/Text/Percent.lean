/-
HttpSuite/Text/Percent.lean

Escaped bytes: a percent sign and two hexadecimal digits stand for a byte of the UTF-8 form of a
text. `encode` escapes the characters of a set, and those outside of ASCII in any case; `bytes`
reads escapes and lets a percent sign without digits stand for itself; `bytes?` refuses it.
-/
import HttpSuite.Text.Ascii

namespace HttpSuite.Percent

/-- The written form of a byte. -/
def escape (b : UInt8) : List Char :=
  ['%', Ascii.hexDigit (b.toNat / 16), Ascii.hexDigit (b.toNat % 16)]

/-- A character, or its escaped bytes when it has to be escaped. -/
def encodeChar (escaped : Char → Bool) (c : Char) : List Char :=
  if escaped c || 0x80 ≤ c.toNat then (String.utf8EncodeChar c).flatMap escape else [c]

/-- The text with its characters of a set escaped. -/
def encode (escaped : Char → Bool) (s : List Char) : List Char := s.flatMap (encodeChar escaped)

/-- The bytes that a text stands for. -/
def bytes : List Char → List UInt8
  | [] => []
  | '%' :: a :: b :: rest =>
    match Ascii.hexValue? a, Ascii.hexValue? b with
    | some x, some y => (x * 16 + y).toUInt8 :: bytes rest
    | _, _ => 0x25 :: bytes (a :: b :: rest)
  | c :: rest => String.utf8EncodeChar c ++ bytes rest
termination_by s => s.length

/-- The bytes that a text stands for when every percent sign starts an escape. -/
def bytes? : List Char → Option (List UInt8)
  | [] => some []
  | '%' :: a :: b :: rest => do
    let x ← Ascii.hexValue? a
    let y ← Ascii.hexValue? b
    let more ← bytes? rest
    pure ((x * 16 + y).toUInt8 :: more)
  | '%' :: _ => none
  | c :: rest => (bytes? rest).map (String.utf8EncodeChar c ++ ·)

/-- The text of bytes, if they are the UTF-8 form of one. -/
def textOf? (l : List UInt8) : Option String := String.fromUTF8? ⟨l.toArray⟩

end HttpSuite.Percent
