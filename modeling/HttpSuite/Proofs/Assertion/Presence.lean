/-
HttpSuite/Proofs/Assertion/Presence.lean

Whether something is at a path into a response, and which scalar is there.  The two questions are
asked by different functions, each of which goes down the path by itself: `exists` asks the first
one, and a comparison the second.  What the two find at a path is told together (`Finding`):

    a scalar        something is there, and can be compared
    a container     something is there, and no scalar is: an array or an object
    nothing         nothing is there, and the path is not found
    not a body      nothing is there, for the path leads into a body that is no JSON text

Main result: something is at a path exactly when a scalar or a container is, and a path that is not
found leads to nothing (`isPresent_agrees`).
-/
import HttpSuite.Proofs.Variables.BodyPath

namespace HttpSuite

/-! ### Nodes -/

/-- An array or an object. -/
inductive Json.IsContainer : Json → Prop
  | array (items : List Json) : IsContainer (.array items)
  | object (members : List (String × Json)) : IsContainer (.object members)

namespace ResponseBody

theorem ofText_eq_json_iff {raw : String} {v : Json} :
    ofText raw = .json v ↔ Json.parse? raw.toList = some v := by
  unfold ofText
  cases Json.parse? raw.toList with
  | none => simp
  | some w => simp

theorem ofText_eq_text {raw : String} (h : Json.parse? raw.toList = none) :
    ofText raw = .text raw := by
  rw [ofText, h]

end ResponseBody

namespace Assertion

/-- A node is a scalar, or it is a container and cannot be compared. -/
theorem Value.ofJson_cases (node : Json) :
    (∃ v, Value.ofJson node = .ok v) ∨
      node.IsContainer ∧
        Value.ofJson node = .error (.extraction "Cannot compare arrays or objects directly") := by
  cases node with
  | null => exact .inl ⟨_, rfl⟩
  | bool b => exact .inl ⟨_, rfl⟩
  | number n => exact .inl ⟨_, rfl⟩
  | string s => exact .inl ⟨_, rfl⟩
  | array items => exact .inr ⟨.array items, rfl⟩
  | object members => exact .inr ⟨.object members, rfl⟩

namespace Path

/-- The node of the body that a path selects; only paths into a JSON body select nodes. -/
inductive Selects (r : Response) : Path → Json → Prop
  | body {path : String} {v node : Json} (hne : path ≠ "")
      (hbody : Json.parse? r.body.toList = some v) (hnode : nodeAt? v path = some node) :
      Selects r (.body path) node

variable {r : Response} {p : Path}

/-- Something is where a path selects a node, and the scalar there is the one that the node is. -/
theorem Selects.spec {node : Json} (h : p.Selects r node) :
    p.isPresent r = true ∧ p.value r = Value.ofJson node := by
  cases h with
  | body hne hbody hnode =>
      have hjson := ResponseBody.ofText_eq_json_iff.mpr hbody
      refine ⟨?_, value_body hne hjson hnode⟩
      rw [isPresent_body hne hjson, hnode]
      rfl

/-- A body that is no JSON text has nothing below it, and says so. -/
theorem not_json {path : String} (hne : path ≠ "") (hbody : Json.parse? r.body.toList = none) :
    (Path.body path).isPresent r = false ∧ (Path.body path).value r =
      .error (.extraction ("Response body is not JSON, cannot read body." ++ path)) := by
  have htext := ResponseBody.ofText_eq_text hbody
  constructor
  · simp [isPresent, htext, ResponseBody.json?, hne]
  · simp [value, valueInBody, htext, ResponseBody.json?, hne]

/-! ### What is at a path -/

/-- What the two functions find at a path. -/
inductive Finding (r : Response) (p : Path) : Prop
  | scalar (v : Value) (hpresent : p.isPresent r = true) (hvalue : p.value r = .ok v)
  | container (node : Json) (hnode : p.Selects r node) (hcontainer : node.IsContainer)
      (hpresent : p.isPresent r = true)
      (hvalue : p.value r = .error (.extraction "Cannot compare arrays or objects directly"))
  | nothing (detail : String) (habsent : p.isPresent r = false)
      (hvalue : p.value r = .error (.pathNotFound detail))
  | notJson (path : String) (hpath : p = .body path) (habsent : p.isPresent r = false)
      (hvalue : p.value r =
        .error (.extraction ("Response body is not JSON, cannot read body." ++ path)))

/-- One of the four is at every path. -/
theorem finding (r : Response) (p : Path) : Finding r p := by
  cases p with
  | status => exact .scalar _ rfl rfl
  | time => exact .scalar _ rfl rfl
  | header name =>
      cases hfind : r.headers.find? name with
      | some s =>
          refine .scalar (.string s) ?_ ?_
          · simp [isPresent, hfind]
          · simp [value, hfind]
      | none =>
          refine .nothing ("Header '" ++ name ++ "' not found") ?_ ?_
          · simp [isPresent, hfind]
          · simp [value, hfind]
  | body path =>
      -- the body without a path is its text, whatever that is
      by_cases hne : path = ""
      · subst hne
        exact .scalar _ rfl rfl
      cases hbody : Json.parse? r.body.toList with
      | none =>
          obtain ⟨habsent, hvalue⟩ := not_json hne hbody
          exact .notJson path rfl habsent hvalue
      | some v =>
          have hjson := ResponseBody.ofText_eq_json_iff.mpr hbody
          cases hnode : nodeAt? v path with
          | none =>
              refine .nothing ("Path 'body." ++ path ++ "' not found") ?_ ?_
              · rw [isPresent_body hne hjson, hnode]
                rfl
              · simp [value, valueInBody, hne, hjson, ResponseBody.json?, hnode]
          | some node =>
              have hselects : Selects r (.body path) node := .body hne hbody hnode
              obtain ⟨hpresent, hvalue⟩ := hselects.spec
              obtain ⟨w, hw⟩ | ⟨hcontainer, herror⟩ := Value.ofJson_cases node
              · exact .scalar w hpresent (hvalue.trans hw)
              · exact .container node hselects hcontainer hpresent (hvalue.trans herror)

/-- **Presence and value**: something is at a path exactly when a scalar is, or the node that the
path selects is an array or an object.  A path that is not found leads to nothing, and so does a
path into a body that is no JSON text, where no scalar can be taken out. -/
theorem isPresent_agrees (r : Response) (p : Path) :
    (p.isPresent r = true ↔
      (∃ v, p.value r = .ok v) ∨ ∃ node, p.Selects r node ∧ node.IsContainer) ∧
    (∀ detail, p.value r = .error (.pathNotFound detail) → p.isPresent r = false) ∧
    (∀ path, p = .body path → path ≠ "" → Json.parse? r.body.toList = none →
      p.isPresent r = false ∧ p.value r =
        .error (.extraction ("Response body is not JSON, cannot read body." ++ path))) := by
  refine ⟨⟨fun hpresent => ?_, ?_⟩, fun detail hdetail => ?_, ?_⟩
  · cases finding r p with
    | scalar v _ hvalue => exact .inl ⟨v, hvalue⟩
    | container node hnode hcontainer _ _ => exact .inr ⟨node, hnode, hcontainer⟩
    | nothing _ habsent _ => exact absurd hpresent (by simp [habsent])
    | notJson _ _ habsent _ => exact absurd hpresent (by simp [habsent])
  · rintro (⟨v, hv⟩ | ⟨node, hnode, -⟩)
    · cases finding r p with
      | scalar _ hpresent _ => exact hpresent
      | container _ _ _ hpresent _ => exact hpresent
      | nothing _ _ hvalue => cases hv.symm.trans hvalue
      | notJson _ _ _ hvalue => cases hv.symm.trans hvalue
    · exact hnode.spec.1
  · cases finding r p with
    | scalar _ _ hvalue => cases hdetail.symm.trans hvalue
    | container _ _ _ _ hvalue => cases hdetail.symm.trans hvalue
    | nothing _ habsent _ => exact habsent
    | notJson _ _ habsent _ => exact habsent
  · rintro path rfl hne hbody
    exact not_json hne hbody

/-! A list is there and cannot be compared, a number can be, and a name without a member is not
found. -/

example :
    let r : Response := ⟨⟨200, by decide⟩, [], "\x7b\"tags\":[1],\"id\":7\x7d", 0⟩
    ["tags", "id", "name"].map (fun path =>
      ((Path.body path).isPresent r, (Path.body path).value r matches .ok _)) =
        [(true, false), (true, true), (false, false)] := by
  decide +kernel

end Path

end Assertion

end HttpSuite
