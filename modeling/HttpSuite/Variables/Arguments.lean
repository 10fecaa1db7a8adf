/-
HttpSuite/Variables/Arguments.lean

The arguments of a generator. Blanks separate arguments, quotes of either kind keep blanks inside
of one and are dropped themselves, and a quote may open and close anywhere in an argument.
-/
import HttpSuite.Text.Blank

namespace HttpSuite.Arguments

/-- Whether a character is a quote. -/
def isQuote (c : Char) : Bool := c == '"' || c == '\''

/-- The arguments of a text, read with an open quote or none and the argument that has begun, its
characters backwards. -/
def scan (quote : Option Char) (current : Option (List Char)) : List Char → List (List Char)
  | [] => (current.map List.reverse).toList
  | c :: rest =>
    match quote with
    | some q =>
      if c = q then scan none current rest
      else scan quote (some (c :: current.getD [])) rest
    | none =>
      if isQuote c then scan (some c) (some (current.getD [])) rest
      else if Text.isBlank c then
        match current with
        | some word => word.reverse :: scan none none rest
        | none => scan none none rest
      else scan none (some (c :: current.getD [])) rest

/-- The arguments of a text. -/
def split (s : List Char) : List (List Char) := scan none none s

end HttpSuite.Arguments
