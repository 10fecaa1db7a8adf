/-
HttpSuite/JsonPath.lean

Paths into JSON values. A path is a list of segments; each segment leads from one value to a list
of values. The segments of a path are taken one after the other, each from all the values that have
been reached (`reach`); that comes to the same as following each value to the end of the path before
the next one (`follow`, `reach_eq_follow`). Two notations are read: expressions that start with a
dollar sign (`select`) and plain paths without one (`lookup`), which know neither wildcards nor
descents.
-/
import HttpSuite.Json.Writer
import HttpSuite.Text.Blank

namespace HttpSuite.JsonPath

/-- One step of a path. -/
inductive Segment where
  | field (name : String)
  | index (i : Int)
  | wildcard
  /-- The members of a name at any depth; without a name, everything inside. -/
  | descend (name : Option String)
deriving DecidableEq, Repr

/-- The values that a segment leads to. -/
def Segment.step : Segment → Json → List Json
  | field name, v => (v.get? name).toList
  | index i, v => (v.item? i).toList
  | wildcard, v => v.children
  | descend (some name), v => v.descendants.filterMap (·.get? name)
  | descend none, v => v.descendants.flatMap Json.children

/-- The values that segments reach: each one leads on from all that the ones before it have reached.
-/
def reach (l : List Segment) (root : Json) : List Json :=
  l.foldl (fun reached segment => reached.flatMap segment.step) [root]

/-- The values that segments lead to, each followed to the end by itself. -/
def follow : List Segment → Json → List Json
  | [], v => [v]
  | segment :: rest, v => (segment.step v).flatMap (follow rest)

theorem foldl_step_eq_flatMap (l : List Segment) (vs : List Json) :
    l.foldl (fun reached segment => reached.flatMap segment.step) vs = vs.flatMap (follow l) := by
  induction l generalizing vs with
  | nil => exact (List.flatMap_singleton' vs).symm
  | cons segment l ih =>
      rw [List.foldl_cons, ih, List.flatMap_assoc]
      rfl

/-- Segment by segment or value by value, the same values are reached in the same order. -/
@[simp] theorem reach_eq_follow (l : List Segment) (v : Json) : reach l v = follow l v := by
  rw [reach, foldl_step_eq_flatMap, List.flatMap_singleton]

/-- Whether a segment can lead to several values. -/
def Segment.branches : Segment → Bool
  | wildcard => true
  | descend _ => true
  | _ => false

/-! ### Notation -/

/-- A character of a name outside brackets. -/
def isNameChar (c : Char) : Bool := c != '.' && c != '['

/-- The segment between two brackets: an asterisk, a quoted name or an index. -/
def bracketSegment (inner : List Char) : Option Segment :=
  match inner with
  | ['*'] => some .wildcard
  | _ =>
    let quoted (q : Char) := inner.head? = some q && inner.getLast? = some q
    if (quoted '\'' || quoted '"') && 2 ≤ inner.length then
      some (.field (String.ofList inner.tail.dropLast))
    else (Ascii.int64OfDigits? inner).map .index

/-- The segments that a text writes. -/
def segments : List Char → Option (List Segment)
  | [] => some []
  | '.' :: '.' :: '*' :: rest => (segments rest).map (.descend none :: ·)
  | '.' :: '.' :: rest =>
    let name := rest.takeWhile isNameChar
    if name.isEmpty then none
    else (segments (rest.dropWhile isNameChar)).map (.descend (some (String.ofList name)) :: ·)
  | '.' :: '*' :: rest => (segments rest).map (.wildcard :: ·)
  | '.' :: rest =>
    let name := rest.takeWhile isNameChar
    if name.isEmpty then none
    else (segments (rest.dropWhile isNameChar)).map (.field (String.ofList name) :: ·)
  | '[' :: rest =>
    let inner := rest.takeWhile (· != ']')
    if inner.length = rest.length then none
    else
      match bracketSegment (Text.trim inner) with
      | none => none
      | some segment => (segments (rest.dropWhile (· != ']')).tail).map (segment :: ·)
  | _ => none
termination_by s => s.length
decreasing_by
  all_goals simp_wf
  all_goals have hname := (List.dropWhile_sublist isNameChar (l := rest)).length_le
  all_goals have hclose := (List.dropWhile_sublist (· != ']') (l := rest)).length_le
  all_goals omega

/-- A segment starts with a full stop or a bracket. -/
theorem segments_cons_eq_none {c : Char} (hstop : c ≠ '.') (hbracket : c ≠ '[') (s : List Char) :
    segments (c :: s) = none := by
  rw [segments] <;> simp_all

/-- The values that an expression selects; none when it is no expression. -/
def select (v : Json) (path : String) : Option (List Json) :=
  match Text.trim path.toList with
  | '$' :: rest => (segments rest).map (reach · v)
  | _ => none

/-- The first value that an expression selects. -/
def first (v : Json) (path : String) : Option Json :=
  (select v path).bind List.head?

/-- The notation of a plain path in segments. -/
def plainNotation (path : List Char) : List Char :=
  if path.head? = some '[' then path else '.' :: path

/-- The value at a plain path; the empty path leads to the value itself. -/
def lookup (v : Json) (path : String) : Option Json :=
  let path := Text.trim path.toList
  if path.isEmpty then some v
  else
    match segments (plainNotation path) with
    | none => none
    | some l => if l.any Segment.branches then none else (reach l v).head?

end HttpSuite.JsonPath
