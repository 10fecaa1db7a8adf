/-
HttpSuite/Variables/State.lean

The variables of a run. A placeholder `{{name}}` stands for the first of these that has
a text: the overrides, the store, a generator (for names that start with a dollar sign), a
reference into a named response. A placeholder that none of them knows stays as it is.
`substituteStatic` asks the overrides and the store alone: it is what a file is compiled with.
-/
import HttpSuite.Text.Template
import HttpSuite.Variables.Generator
import HttpSuite.Variables.ResponseRecord

namespace HttpSuite

/-- Placeholders: a name between two braces on either side, without braces inside and without
blanks at its ends. -/
def placeholder : HoleStyle where
  opening := ['\x7b', '\x7b']
  closing := ['\x7d', '\x7d']
  nameChar c := c != '\x7b' && c != '\x7d'
  isName name := name.head?.any (!Text.isBlank ·) && name.getLast?.any (!Text.isBlank ·)

/-- References to environment variables: a name of capitals, digits and underscores that does not
start with a digit, between a dollar sign with a brace and a brace. -/
def environmentReference : HoleStyle where
  opening := ['$', '\x7b']
  closing := ['\x7d']
  nameChar c := ('A' ≤ c && c ≤ 'Z') || Ascii.isDigit c || c == '_'
  isName name := name.head?.any (!Ascii.isDigit ·)

namespace World

/-- The text with its references to environment variables replaced. -/
def expandEnvironment (w : World) (text : String) : String :=
  environmentReference.fill w.environment.get? text

end World

/-- The text with the placeholders filled that a table has a text for. -/
def Table.substitute (t : Table String) (text : String) : String := placeholder.fill t.get? text

/-- The variables of a run. -/
structure VariableState where
  overrides : Table String := ∅
  store : Table String := ∅
  generators : Generators := {}
  responses : NamedResponses := ∅

namespace VariableState

/-- The text of a name in the overrides or, failing that, in the store. -/
def fixed? (st : VariableState) (name : String) : Option String :=
  (st.overrides.get? name).or (st.store.get? name)

/-- Whether a name is one that generators are asked for. -/
def isExpression (name : String) : Bool := name.toList.head? = some '$'

/-- The text of a name, with the texts of generators given as a function. -/
def lookupWith (st : VariableState) (generated : String → Option String) (name : String) :
    Option String :=
  (st.fixed? name).or
    ((if isExpression name then generated name else none).or
      (if Text.contains responseMark name.toList then st.responses.resolve name else none))

/-- The text of a name, and the variables after a generator was asked. -/
def lookup (w : World) (st : VariableState) (name : String) : Option String × VariableState :=
  if (st.fixed? name).isNone && isExpression name then
    let (text, generators) := st.generators.evaluate w name
    (st.lookupWith (fun _ => text) name, { st with generators })
  else (st.lookupWith (fun _ => none) name, st)

/-- The text with its placeholders filled, with the texts of generators given as a function. -/
def substituteWith (st : VariableState) (generated : String → Option String) (text : String) :
    String :=
  placeholder.fill (st.lookupWith generated) text

/-- The text with its placeholders filled, and the variables after the generators were asked. -/
def substitute (w : World) (st : VariableState) (text : String) : String × VariableState :=
  placeholder.fillFrom (lookup w) st text

/-- The text with those placeholders filled that the overrides or the store know. -/
def substituteStatic (st : VariableState) (text : String) : String :=
  placeholder.fill st.fixed? text

/-- Gives a text to a name of the store. -/
def set (st : VariableState) (key value : String) : VariableState :=
  { st with store := st.store.insert key value }

/-- Keeps the record of a named request. -/
def record (st : VariableState) (name : String) (r : ResponseRecord) : VariableState :=
  { st with responses := st.responses.insert name r }

/-- The store with the overrides over it. -/
def snapshot (st : VariableState) : Table String := st.store.insertAll st.overrides.entries

end VariableState

end HttpSuite
