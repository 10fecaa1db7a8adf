/-
HttpSuite/Proofs/Variables/Reference.lean

References into the responses of named requests.  A reference is cut in two places:

    id.response.part.rest
      ^ behind the name of the request, at the first mark of a response
                    ^ behind the part of the response, at the first full stop

What stands in front of the first cut is the name of the request if this name does not hold the mark
itself (`NamedResponses.resolve_append`), and the parts that have something behind them are the
headers and the body (`ResponseRecord.lookup_header`, `lookup_body`).
-/
import HttpSuite.Proofs.Text.Lines
import HttpSuite.Variables.ResponseRecord

namespace HttpSuite

namespace ResponseRecord

variable (r : ResponseRecord)

/-- A reference is cut at its first full stop. -/
theorem splitOnce?_part (part rest : String) (hpart : '.' ∉ part.toList) :
    Text.splitOnce? ['.'] (part ++ "." ++ rest).toList = some (part.toList, rest.toList) := by
  rw [String.toList_append, String.toList_append, List.append_assoc]
  exact Text.splitOnce?_append_cons hpart rest.toList

/-- A reference without a name gives the JSON object of the headers. -/
theorem lookup_headers : r.lookup "headers" = some r.headersJson.compact := by
  have hsplit : Text.splitOnce? ['.'] "headers".toList = none := by decide
  rw [lookup, hsplit]

/-- A reference with a name gives the value of its first header. -/
theorem lookup_header (name : String) : r.lookup ("headers." ++ name) = r.headers.find? name := by
  have hsplit : Text.splitOnce? ['.'] ("headers." ++ name).toList =
      some ("headers".toList, name.toList) := splitOnce?_part "headers" name (by decide)
  unfold lookup
  rw [hsplit]
  show r.headers.find? (String.ofList name.toList) = _
  rw [String.ofList_toList]

/-- A reference into a body gives the text of the value at its path. -/
theorem lookup_body (path : String) :
    r.lookup ("body." ++ path) = (r.bodyValue? path).map Json.render := by
  have hsplit : Text.splitOnce? ['.'] ("body." ++ path).toList =
      some ("body".toList, path.toList) := splitOnce?_part "body" path (by decide)
  unfold lookup
  rw [hsplit]
  show (r.bodyValue? (String.ofList path.toList)).map Json.render = _
  rw [String.ofList_toList]

end ResponseRecord

/-- A reference is cut behind the name of a request that does not hold the mark. -/
theorem NamedResponses.resolve_append (responses : NamedResponses) {id : String}
    (hid : ¬ ".response".toList <:+: id.toList) (path : String) :
    responses.resolve (id ++ ".response." ++ path) =
      (responses.get? id).bind (·.lookup path) := by
  have hsplit : Text.splitOnce? responseMark (id ++ ".response." ++ path).toList =
      some (id.toList, path.toList) := by
    have htext : (id ++ ".response." ++ path).toList =
        id.toList ++ (('.' :: "response".toList ++ ['.']) ++ path.toList) := by
      simp only [String.toList_append, List.append_assoc]
      rfl
    rw [htext]
    exact Text.splitOnce?_append_word (by decide) hid _
  rw [resolve, hsplit]
  simp only [String.ofList_toList]

/-- A reference into the body of a request gives the text of the value at its path. -/
theorem NamedResponses.resolve_body (responses : NamedResponses) {id : String}
    (hid : ¬ ".response".toList <:+: id.toList) (path : String) :
    responses.resolve (id ++ ".response.body." ++ path) =
      (responses.get? id).bind fun r => (r.bodyValue? path).map Json.render := by
  have htext : id ++ ".response.body." ++ path = id ++ ".response." ++ ("body." ++ path) := by
    simp only [← String.toList_inj, String.toList_append, List.append_assoc]
    rfl
  rw [htext, resolve_append responses hid]
  simp only [ResponseRecord.lookup_body]

end HttpSuite
