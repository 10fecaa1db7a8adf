/-
HttpSuite/Http/Target.lean

The target of a request: a URL, or a short form of one. `complete` puts the missing scheme and the
missing host in front; which of them is missing is seen from the first colon with two slashes in the
whole text.
-/
import HttpSuite.Error
import HttpSuite.Text.Blank
import HttpSuite.Url.Reader

namespace HttpSuite.Target

/-- The host of a target that names none. -/
def usualHost : List Char := "localhost".toList

/-- The scheme of a target that names none, and what follows it. -/
def usualScheme : List Char := "http://".toList

/-- What ends a scheme. -/
def schemeMark : List Char := "://".toList

/-- The target with its missing scheme and host. -/
def complete (target : List Char) : List Char :=
  match target with
  | ':' :: _ => usualScheme ++ usualHost ++ target
  | _ =>
    match Text.splitOnce? schemeMark target with
    | some (scheme, ':' :: rest) => scheme ++ schemeMark ++ usualHost ++ ':' :: rest
    | some _ => target
    | none => usualScheme ++ target

/-- The URL of a target. -/
def url (target : String) : Except Error Url :=
  let trimmed := Text.trim target.toList
  if trimmed.isEmpty then .error .emptyTarget
  else (Url.ofText (complete trimmed)).mapError (.invalidTarget (String.ofList trimmed))

end HttpSuite.Target
