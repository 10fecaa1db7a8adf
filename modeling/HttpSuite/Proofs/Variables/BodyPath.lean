/-
HttpSuite/Proofs/Variables/BodyPath.lean

Paths into a body.  A reference `{{id.response.body.p}}` and an assertion `body.p` both look for the
node of a JSON body at the path `p`, and each decides by the start of `p` how it is read:

    reference    an expression if `p` is `$` or starts with `$.`, a plain path otherwise
    assertion    an expression if `p` starts with `$`, a plain path otherwise

So they read a path in two ways when it starts with `$` and goes on with something else than a full
stop (`Contested`): a root index such as `$[0]`, or a name such as `$ref`.

Main result: on all bodies the reference gives the text of the node that the assertion finds, and
nothing when it finds none, exactly when the path is not contested (`lookup_body_agrees_iff`).  The
way from the agreement to the path needs bodies on which the two readings differ: whatever segments
a path has, there is a value in which they lead to a node, and to none behind a member `$`
(`exists_follow_ne_nil`).
-/
import HttpSuite.Assertion.Evaluate
import HttpSuite.Proofs.JsonPath.Plain
import HttpSuite.Proofs.Variables.Reference

namespace HttpSuite

namespace JsonPath

/-! ### Segments -/

theorem follow_cons_ne_nil {segment : Segment} {l : List Segment} {v w : Json}
    (hw : w ∈ segment.step v) (h : follow l w ≠ []) : follow (segment :: l) v ≠ [] := by
  obtain ⟨node, rest, hnode⟩ := List.exists_cons_of_ne_nil h
  refine List.ne_nil_of_mem (a := node) (List.mem_flatMap.mpr ⟨w, hw, ?_⟩)
  rw [hnode]
  exact List.mem_cons_self

/-- What is no object has nothing behind a member. -/
theorem follow_field_array (name : String) (l : List Segment) (items : List Json) :
    follow (.field name :: l) (.array items) = [] :=
  rfl

/-- An array has its first item as far from the end as it is long. -/
theorem item?_replicate_negSucc (n : Nat) (v : Json) :
    (Json.array (List.replicate (n + 1) v)).item? (.negSucc n) = some v := by
  simp [Json.item?]

/-- A segment that leads from an array into a value goes on there as the segments behind it do, and
the array has no member `$`. -/
theorem exists_of_mem_step_array {segment : Segment} {l : List Segment} {v : Json}
    (items : List Json) (hv : follow l v ≠ []) (h : v ∈ segment.step (.array items)) :
    ∃ w, follow (segment :: l) w ≠ [] ∧ follow (.field "$" :: segment :: l) w = [] :=
  ⟨.array items, follow_cons_ne_nil h hv, follow_field_array _ _ _⟩

/-- Segments lead to something in some value, and to nothing there behind a member `$`. -/
theorem exists_follow_ne_nil (l : List Segment) :
    ∃ v, follow l v ≠ [] ∧ follow (.field "$" :: l) v = [] := by
  induction l with
  | nil => exact ⟨.null, by simp [follow], rfl⟩
  | cons segment l ih =>
      obtain ⟨v, hv, hbehind⟩ := ih
      -- each segment leads into `v` from a container around it, which is an array if it can be
      cases segment with
      | field name =>
          refine ⟨.object [(name, v)], by rwa [follow_field_object], ?_⟩
          by_cases hname : name = "$"
          · subst hname
            rw [follow_field_object, hbehind]
          · have hmember : (Json.object [(name, v)]).get? "$" = none := by
              simp [Json.get?, Table.find?, Ne.symm hname]
            simp [follow, Segment.step, hmember]
      | index i =>
          cases i with
          | ofNat n =>
              refine exists_of_mem_step_array (List.replicate (n + 1) v) hv ?_
              rw [Segment.step, item?_replicate]
              exact List.mem_singleton_self v
          | negSucc n =>
              refine exists_of_mem_step_array (List.replicate (n + 1) v) hv ?_
              rw [Segment.step, item?_replicate_negSucc]
              exact List.mem_singleton_self v
      | wildcard =>
          exact exists_of_mem_step_array [v] hv (List.mem_singleton_self v)
      | descend name =>
          cases name with
          | none =>
              refine exists_of_mem_step_array [v] hv ?_
              exact List.mem_flatMap.mpr ⟨.array [v], by simp [Json.descendants],
                List.mem_singleton_self v⟩
          | some name =>
              refine exists_of_mem_step_array [.object [(name, v)]] hv ?_
              refine List.mem_filterMap.mpr ⟨.object [(name, v)], ?_, ?_⟩
              · simp [Json.descendants, Json.descendantsOfItems]
              · simp [Json.get?, Table.find?]

/-! ### Notation -/

/-- Whether a path is read in two ways that differ in some value: it starts with a dollar sign and
goes on with something else than a full stop, and one of the two ways makes segments of it. -/
def contested (path : List Char) : Bool :=
  match path with
  | '$' :: c :: rest => c != '.' && ((segments (c :: rest)).isSome || (plainSegments? path).isSome)
  | _ => false

/-! A root index and a name with a dollar sign are contested, a member of the root is not. -/

example :
    ["$[0]", "$ref", "$.a", "a[0]"].map (contested ·.toList) = [true, true, false, false] := by
  decide +kernel

theorem first_eq_bind {path : String} {rest : List Char}
    (htrim : Text.trim path.toList = path.toList) (hpath : path.toList = '$' :: rest) (v : Json) :
    first v path = (segments rest).bind fun l => (follow l v).head? := by
  rw [first, select, htrim, hpath]
  show ((segments rest).map (reach · v)).bind List.head? = _
  cases segments rest with
  | none => rfl
  | some l => exact congrArg List.head? (reach_eq_follow l v)

/-- In a plain path a dollar sign in front of a bracket is the name of a member. -/
theorem segments_plainNotation_bracket (s : List Char) :
    segments (plainNotation ('$' :: '[' :: s)) = (segments ('[' :: s)).map (.field "$" :: ·) := by
  rw [show plainNotation ('$' :: '[' :: s) = '.' :: '$' :: '[' :: s from rfl, segments]
  all_goals simp [isNameChar]

theorem isSome_head?_follow {l : List Segment} {v : Json} (h : follow l v ≠ []) :
    (follow l v).head?.isSome := by
  obtain ⟨node, rest, hnode⟩ := List.exists_cons_of_ne_nil h
  rw [hnode]
  rfl

/-- A contested path starts with a dollar sign and has no full stop behind it. -/
theorem exists_of_contested {path : List Char} (h : contested path = true) :
    ∃ c rest, path = '$' :: c :: rest ∧ c ≠ '.' ∧
      ((segments (c :: rest)).isSome = true ∨ (plainSegments? path).isSome = true) := by
  unfold contested at h
  split at h
  · rename_i c rest
    exact ⟨c, rest, rfl, by simpa using h⟩
  · simp at h

/-- A contested path leads to a node of some value in one way, and to none in the other. -/
theorem exists_first_ne_lookup {path : String} (htrim : Text.trim path.toList = path.toList)
    (h : contested path.toList = true) :
    ∃ v, (first v path).isSome ≠ (lookup v path).isSome := by
  obtain ⟨c, rest, hpath, hstop, hsome⟩ := exists_of_contested h
  have hfirst := first_eq_bind htrim hpath
  have hlookup := lookup_eq_bind htrim (by simp [hpath])
  rw [hpath] at hlookup hsome
  by_cases hbracket : c = '['
  · -- the segments are those of an expression, behind a member `$` in a plain path
    subst hbracket
    have hplain : plainSegments? ('$' :: '[' :: rest) =
        ((segments ('[' :: rest)).map (.field "$" :: ·)).filter (!·.any Segment.branches) := by
      rw [plainSegments?, segments_plainNotation_bracket]
    cases hl : segments ('[' :: rest) with
    | none => simp [hl, hplain] at hsome
    | some l =>
        obtain ⟨v, hv, hbehind⟩ := exists_follow_ne_nil l
        have hnone : lookup v path = none := by
          rw [hlookup, hplain, hl]
          cases hbranches : (Segment.field "$" :: l).any Segment.branches with
          | true => simp [Option.filter, hbranches]
          | false => simp [Option.filter, hbranches, hbehind]
        refine ⟨v, ?_⟩
        rw [hfirst, hl, hnone, Option.bind_some, isSome_head?_follow hv]
        simp
  · -- no expression goes on like this, so there are segments of a plain path
    have hnone := segments_cons_eq_none hstop hbracket rest
    obtain ⟨l, hl⟩ : ∃ l, plainSegments? ('$' :: c :: rest) = some l := by
      rw [hnone] at hsome
      simpa [Option.isSome_iff_exists] using hsome
    obtain ⟨v, hv, -⟩ := exists_follow_ne_nil l
    refine ⟨v, ?_⟩
    rw [hfirst, hnone, hlookup, hl, Option.bind_some, isSome_head?_follow hv]
    simp

/-- Where neither way makes segments of a path, both lead nowhere. -/
theorem first_eq_lookup {path : String} {c : Char} {rest : List Char}
    (htrim : Text.trim path.toList = path.toList) (hpath : path.toList = '$' :: c :: rest)
    (hstop : c ≠ '.') (h : contested path.toList = false) (v : Json) :
    first v path = lookup v path := by
  rw [hpath] at h
  obtain ⟨hfirst, hplain⟩ : segments (c :: rest) = none ∧
      plainSegments? ('$' :: c :: rest) = none := by
    simpa [contested, hstop] using h
  rw [first_eq_bind htrim hpath, lookup_eq_bind htrim (by simp [hpath]), hpath, hfirst, hplain]

end JsonPath

/-! ### References -/

namespace ResponseRecord

/-- A path behind a dollar sign and a full stop is read as an expression. -/
theorem bodyValue?_of_pathMark {r : ResponseRecord} {path : String}
    (h : "$.".toList <+: path.toList) :
    r.bodyValue? path = r.body.json?.bind (JsonPath.first · path) := by
  simp only [bodyValue?, Text.startsWith_iff.mpr h, Bool.true_or, if_true]

/-- A path that is no expression for references is read as a plain path. -/
theorem bodyValue?_of_ne {r : ResponseRecord} {v : Json} {path : String}
    (hbody : r.body = .json v) (hmark : ¬ "$.".toList <+: path.toList) (hroot : path ≠ "$") :
    r.bodyValue? path = JsonPath.lookup v path := by
  have hstart : Text.startsWith "$.".toList path.toList = false := by
    rw [← Bool.not_eq_true, Text.startsWith_iff]
    exact hmark
  simp only [bodyValue?, hbody, ResponseBody.json?, hstart, hroot, Option.bind_some]
  rfl

/-- A reference and an assertion look for the same node at a path that is not contested. -/
theorem bodyValue?_eq_nodeAt? {r : ResponseRecord} {v : Json} {path : String}
    (htrim : Text.trim path.toList = path.toList) (hbody : r.body = .json v)
    (h : JsonPath.contested path.toList = false) :
    r.bodyValue? path = Assertion.nodeAt? v path := by
  by_cases hsign : path.toList.head? = some '$'
  · obtain ⟨rest, hpath⟩ := List.head?_eq_some_iff.mp hsign
    rw [Assertion.nodeAt?, if_pos hsign]
    rcases rest with - | ⟨c, rest⟩
    · obtain rfl : path = "$" := String.toList_inj.mp hpath
      simp [bodyValue?, hbody, ResponseBody.json?]
    · by_cases hstop : c = '.'
      · subst hstop
        rw [bodyValue?_of_pathMark ⟨rest, hpath.symm⟩, hbody]
        rfl
      · rw [JsonPath.first_eq_lookup htrim hpath hstop h]
        refine bodyValue?_of_ne hbody ?_ ?_
        · rw [hpath]
          simp [Ne.symm hstop]
        · rintro rfl
          simp at hpath
  · rw [Assertion.nodeAt?, if_neg hsign]
    refine bodyValue?_of_ne hbody ?_ ?_
    · rintro ⟨rest, hrest⟩
      exact hsign (by rw [← hrest]; rfl)
    · rintro rfl
      exact hsign rfl

/-- A contested path is a plain path for references and an expression for assertions. -/
theorem bodyValue?_of_contested {r : ResponseRecord} {v : Json} {path : String}
    (hbody : r.body = .json v) (h : JsonPath.contested path.toList = true) :
    r.bodyValue? path = JsonPath.lookup v path ∧
      Assertion.nodeAt? v path = JsonPath.first v path := by
  obtain ⟨c, rest, hpath, hstop, -⟩ := JsonPath.exists_of_contested h
  refine ⟨bodyValue?_of_ne hbody ?_ ?_, by rw [Assertion.nodeAt?, hpath]; rfl⟩
  · rw [hpath]
    simp [Ne.symm hstop]
  · rintro rfl
    simp at hpath

end ResponseRecord

/-! ### Assertions -/

namespace Assertion

/-- The word `body.p` is the path `p` into the body. -/
theorem Path.ofWord_body {path : String} (hne : path ≠ "") :
    Path.ofWord ("body." ++ path).toList = .ok (.body path) := by
  obtain ⟨c, rest, hpath⟩ : ∃ c rest, path.toList = c :: rest :=
    List.exists_cons_of_ne_nil (by simpa using hne)
  have hword : ("body." ++ path).toList = "body.".toList ++ c :: rest := by
    rw [String.toList_append, hpath]
  have hheader : Text.stripStart? "headers.".toList ("body.".toList ++ c :: rest) = none := rfl
  have hbody : Text.stripStart? "body.".toList ("body.".toList ++ c :: rest) = some (c :: rest) :=
    Text.stripStart?_eq_some.mpr rfl
  have hother : ∀ s : String, ¬ "body.".toList <+: s.toList →
      String.ofList ("body.".toList ++ c :: rest) ≠ s := by
    intro s hs heq
    refine hs ⟨c :: rest, ?_⟩
    rw [← heq]
    exact String.toList_ofList.symm
  rw [Path.ofWord, hword, hheader, hbody, if_neg (hother "status" (by decide)),
    if_neg (hother "response.time" (by decide)), if_neg (hother "body" (by decide))]
  show Except.ok (Path.body (String.ofList (c :: rest))) = _
  rw [← hpath, String.ofList_toList]

/-- An assertion looks for the node at a path into a JSON body. -/
theorem Path.isPresent_body {r : Response} {v : Json} {path : String} (hne : path ≠ "")
    (hbody : ResponseBody.ofText r.body = .json v) :
    (Path.body path).isPresent r = (nodeAt? v path).isSome := by
  simp [Path.isPresent, hne, hbody, ResponseBody.json?]

/-- What an assertion compares is the scalar that the node is. -/
theorem Path.value_body {r : Response} {v node : Json} {path : String} (hne : path ≠ "")
    (hbody : ResponseBody.ofText r.body = .json v) (hnode : nodeAt? v path = some node) :
    (Path.body path).value r = Value.ofJson node := by
  simp [Path.value, Path.valueInBody, hne, hbody, ResponseBody.json?, hnode]

end Assertion

/-! ### Agreement -/

namespace ResponseRecord

open Assertion (Path nodeAt?)

/-- **Body paths**: an assertion about `body.p` is about the node at the path `p` of a JSON body.
On all bodies a reference to `body.p` gives the text of this node, and nothing where there is none,
exactly when the path is not contested. -/
theorem lookup_body_agrees_iff {path : String} (hne : path ≠ "")
    (hword : ∀ c ∈ path.toList, Text.isBlank c = false) :
    (Path.ofWord ("body." ++ path).toList = .ok (.body path) ∧
      ∀ (r : Response) (v : Json), ResponseBody.ofText r.body = .json v →
        (Path.body path).isPresent r = (nodeAt? v path).isSome ∧
          ∀ node, nodeAt? v path = some node →
            (Path.body path).value r = Assertion.Value.ofJson node) ∧
    ((∀ (record : ResponseRecord) (v : Json), record.body = .json v →
        record.lookup ("body." ++ path) = (nodeAt? v path).map Json.render) ↔
      JsonPath.contested path.toList = false) := by
  have htrim : Text.trim path.toList = path.toList := Text.trim_eq_self_iff.mpr
    ⟨fun c hc => hword c (List.mem_of_head? hc), fun c hc => hword c (List.mem_of_getLast? hc)⟩
  refine ⟨⟨Path.ofWord_body hne, fun r v hbody => ⟨Path.isPresent_body hne hbody, fun node hnode =>
    Path.value_body hne hbody hnode⟩⟩, fun hagree => ?_, fun hpath record v hbody => ?_⟩
  · -- on a contested path, one of the two finds a node of some body and the other none
    refine Bool.not_eq_true _ ▸ fun hpath => ?_
    obtain ⟨v, hv⟩ := JsonPath.exists_first_ne_lookup htrim hpath
    let record : ResponseRecord := ⟨200, "OK", [], .json v⟩
    obtain ⟨hreference, hassertion⟩ := bodyValue?_of_contested (r := record) rfl hpath
    have htexts := hagree record v rfl
    rw [lookup_body, hreference, hassertion] at htexts
    have hsome := congrArg Option.isSome htexts
    rw [Option.isSome_map, Option.isSome_map] at hsome
    exact hv hsome.symm
  · rw [lookup_body, bodyValue?_eq_nodeAt? htrim hbody hpath]

/-- A member of the root: the reference gives the text of the node that the assertion finds. -/
theorem lookup_body_agrees_member :
    let body := Json.object [("id", .number (.whole 7))]
    let record : ResponseRecord := ⟨200, "OK", [], .json body⟩
    ("$.id" ≠ "" ∧ ∀ c ∈ "$.id".toList, Text.isBlank c = false) ∧
      JsonPath.contested "$.id".toList = false ∧ record.lookup ("body." ++ "$.id") = some "7" := by
  intro body record
  have hne : "$.id" ≠ "" := by decide
  have hword : ∀ c ∈ "$.id".toList, Text.isBlank c = false := Text.isBlank_eq_false_of_any rfl
  have hpath : JsonPath.contested "$.id".toList = false := by decide
  have hnode : (nodeAt? body "$.id").map Json.render = some "7" := by decide +kernel
  refine ⟨⟨hne, hword⟩, hpath, ?_⟩
  rw [(lookup_body_agrees_iff hne hword).2.mpr hpath record body rfl, hnode]

/-- A root index: the assertion finds the item, and the reference looks for a member `$`. -/
theorem lookup_body_rootIndex :
    let r : Response := ⟨⟨200, by decide⟩, [], "[10, 20]", 0⟩
    (Path.body "$[0]").isPresent r = true ∧ r.record.lookup ("body." ++ "$[0]") = none := by
  decide +kernel

end ResponseRecord

end HttpSuite
