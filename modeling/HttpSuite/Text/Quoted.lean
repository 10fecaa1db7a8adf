/-
HttpSuite/Text/Quoted.lean

Texts between double quotes, for messages that show a value. Quotes, backslashes and characters
that do not print are escaped.
-/
import HttpSuite.Text.Ascii
import HttpSuite.Text.Printable

namespace HttpSuite.Text

/-- The small hexadecimal digits of a number, at most `fuel` of them. -/
def hexDigits : (fuel : Nat) → Nat → List Char
  | 0, _ => []
  | fuel + 1, n =>
    let digit := Ascii.lowerChar (Ascii.hexDigit (n % 16))
    if n < 16 then [digit] else hexDigits fuel (n / 16) ++ [digit]

/-- The written form of a character between quotes. -/
def quotedChar (c : Char) : List Char :=
  if c = '"' then ['\\', '"']
  else if c = '\\' then ['\\', '\\']
  else if c = '\n' then ['\\', 'n']
  else if c = '\r' then ['\\', 'r']
  else if c = '\t' then ['\\', 't']
  else if c.toNat = 0 then ['\\', '0']
  else if isPrintable c then [c]
  else ['\\', 'u', '\x7b'] ++ hexDigits 6 c.toNat ++ ['\x7d']

/-- A text between double quotes. -/
def quoted (s : String) : String :=
  String.ofList ('"' :: (s.toList.flatMap quotedChar ++ ['"']))

end HttpSuite.Text
