/-
HttpSuite/Url/Domain.lean

Domain names in ASCII. A name is folded first, so that its spellings are one name; a label with
characters outside of ASCII is then written in ASCII behind a mark, and a label with that mark has
to be such a written form. Names keep all characters but those that end a host or cannot be seen.
-/
import HttpSuite.Text.Search
import HttpSuite.Url.Folding
import HttpSuite.Url.Label
import HttpSuite.Url.Punycode

namespace HttpSuite.Url.Domain

/-- What the written form of a label starts with. -/
def mark : List Char := "xn--".toList

/-- An ASCII character that no name holds. -/
def isForbidden (c : Char) : Bool :=
  c.toNat ≤ 0x20 || c.toNat == 0x7F || "%#/:<>?@[\\]^|".toList.contains c

/-- The label that a folded label stands for: one behind the mark is read. -/
def meaning? (label : List Char) : Option (List Char) :=
  match Text.stripStart? mark label with
  | some written =>
    (Punycode.decode? written).filter fun wide =>
      !isAscii wide && isSpellable wide && fold wide = wide
  | none => some label

/-- Whether labels may stand in one name. -/
def areValid (labels : List (List Char)) : Bool :=
  labels.all isAscii ||
    (labels.all Label.isValid &&
      (!labels.any Text.Direction.turns || labels.all Text.Direction.fits))

/-- A label in ASCII. -/
def written (label : List Char) : List Char :=
  if isAscii label then label else mark ++ Punycode.encode label

/-- The name in ASCII. -/
def toAscii? (name : List Char) : Option (List Char) := do
  let labels ← ((fold name).splitOn '.').mapM meaning?
  let ascii := List.intercalate ['.'] (labels.map written)
  if isSpellable name ∧ areValid labels ∧ !ascii.any isForbidden then some ascii else none

end HttpSuite.Url.Domain
