/-
HttpSuite/Proofs/JsonPath/Plain.lean

Plain paths.  A plain path is the notation of an expression without the front of it:

    [0].id      is   $[0].id
    items[0]    is   $.items[0]

The two are read by the same notation, but a plain path has no segment that branches, so that it
leads to one value at most.

Main result: a plain path leads to what its expression selects if the expression is one that does
not branch, and nowhere otherwise (`lookup_agrees`).
-/
import HttpSuite.Proofs.JsonPath.Composition

namespace HttpSuite.JsonPath

open Text (trim)

/-! ### Reading -/

/-- The segments that a path writes when it is read as a plain path. -/
def plainSegments? (path : List Char) : Option (List Segment) :=
  (segments (plainNotation path)).filter (!·.any Segment.branches)

/-- The segments that a path writes when it is read as an expression. -/
def expressionSegments? (path : String) : Option (List Segment) :=
  match trim path.toList with
  | '$' :: rest => segments rest
  | _ => none

/-- The expression of a plain path: a full stop stands in front of a name, and the dollar sign in
front of all. -/
def expressionOf (path : String) : String :=
  if path.toList.head? = some '[' then "$" ++ path else "$." ++ path

theorem lookup_eq_bind {path : String} (htrim : Text.trim path.toList = path.toList)
    (hne : path.toList ≠ []) (v : Json) :
    lookup v path = (plainSegments? path.toList).bind fun l => (follow l v).head? := by
  rw [lookup, htrim, if_neg (by simpa using hne), plainSegments?]
  cases segments (plainNotation path.toList) with
  | none => rfl
  | some l => cases hbranches : l.any Segment.branches <;> simp [Option.filter, hbranches]

/-- An expression selects what its segments lead to. -/
theorem select_eq_map (v : Json) (path : String) :
    select v path = (expressionSegments? path).map (follow · v) := by
  fun_cases expressionSegments? path with
  | case1 rest hexpression =>
      rw [select, hexpression]
      simp only [reach_eq_follow]
  | case2 hnone =>
      rw [select]
      split
      · rename_i rest hexpression
        exact absurd hexpression (hnone rest)
      · rfl

theorem first_eq_bind_expression (v : Json) (path : String) :
    first v path = (expressionSegments? path).bind fun l => (follow l v).head? := by
  rw [first, select_eq_map, Option.bind_map]
  rfl

/-- A plain path and its expression are read by the same notation. -/
theorem expressionSegments?_expressionOf {path : String} (htrim : trim path.toList = path.toList)
    (hne : path.toList ≠ []) :
    expressionSegments? (expressionOf path) = segments (plainNotation path.toList) := by
  have htext : (expressionOf path).toList = '$' :: plainNotation path.toList := by
    rw [expressionOf, plainNotation]
    split
    · simp
    · simp
  have hlast : ('$' :: plainNotation path.toList).getLast? = path.toList.getLast? := by
    obtain ⟨c, rest, hpath⟩ := List.exists_cons_of_ne_nil hne
    rw [plainNotation, hpath]
    split
    · exact List.getLast?_cons_cons
    · rw [List.getLast?_cons_cons, List.getLast?_cons_cons]
  have hkept : trim ('$' :: plainNotation path.toList) = '$' :: plainNotation path.toList := by
    refine Text.trim_eq_self_iff.mpr ⟨fun c hc => ?_, fun c hc => ?_⟩
    · obtain rfl : '$' = c := Option.some.inj hc
      decide
    · exact (Text.trim_eq_self_iff.mp htrim).2 c (hlast ▸ hc)
  have hexpression : trim (expressionOf path).toList = '$' :: plainNotation path.toList := by
    rw [htext, hkept]
  unfold expressionSegments?
  rw [hexpression]
  rfl

/-! ### Segments that do not branch -/

theorem Segment.length_step_le {segment : Segment} (h : segment.branches = false) (v : Json) :
    (segment.step v).length ≤ 1 := by
  cases segment with
  | field name => exact Option.length_toList_le
  | index i => exact Option.length_toList_le
  | wildcard => simp [Segment.branches] at h
  | descend name => simp [Segment.branches] at h

/-- Segments that do not branch lead to one value at most. -/
theorem length_follow_le {l : List Segment} (h : l.any Segment.branches = false) (v : Json) :
    (follow l v).length ≤ 1 := by
  induction l generalizing v with
  | nil => exact Nat.le_refl 1
  | cons segment l ih =>
      have hboth : segment.branches = false ∧ l.any Segment.branches = false := by simpa using h
      obtain ⟨hsegment, hrest⟩ := hboth
      have hstep := Segment.length_step_le hsegment v
      rw [follow]
      rcases hnext : segment.step v with - | ⟨w, - | ⟨w', nodes⟩⟩
      · exact Nat.zero_le 1
      · rw [List.flatMap_singleton]
        exact ih hrest w
      · simp [hnext] at hstep

/-- The first of at most one value is all there is. -/
theorem follow_eq_singleton {l : List Segment} (h : l.any Segment.branches = false) {v x : Json}
    (hx : (follow l v).head? = some x) : follow l v = [x] := by
  obtain ⟨rest, hrest⟩ := List.head?_eq_some_iff.mp hx
  have hlength := length_follow_le h v
  rw [hrest, List.length_cons] at hlength
  have hnil : rest = [] := List.length_eq_zero_iff.mp (by omega)
  rw [hrest, hnil]

/-! ### Agreement -/

/-- A plain path whose expression is one that does not branch has its segments. -/
theorem plainSegments?_eq_some_iff {path : String} (htrim : trim path.toList = path.toList)
    (hne : path.toList ≠ []) {l : List Segment} :
    plainSegments? path.toList = some l ↔
      expressionSegments? (expressionOf path) = some l ∧ l.any Segment.branches = false := by
  rw [expressionSegments?_expressionOf htrim hne, plainSegments?, Option.filter_eq_some_iff]
  simp

/-- **Plain paths**: what a plain path leads to is all that its expression selects.  The two lead to
the same value if the expression is read without segments that branch; it selects one value at most
then.  If it is not read, or read with such a segment, the plain path leads nowhere. -/
theorem lookup_agrees {path : String} (hne : path ≠ "") (htrim : trim path.toList = path.toList)
    (v : Json) :
    (∀ x, lookup v path = some x → select v (expressionOf path) = some [x]) ∧
    (∀ l, expressionSegments? (expressionOf path) = some l → l.any Segment.branches = false →
      lookup v path = first v (expressionOf path) ∧
        ∃ ws, select v (expressionOf path) = some ws ∧ ws.length ≤ 1) ∧
    ((∀ l, expressionSegments? (expressionOf path) = some l → l.any Segment.branches = true) →
      lookup v path = none) := by
  have hne' : path.toList ≠ [] := by simpa using hne
  rw [lookup_eq_bind htrim hne', first_eq_bind_expression, select_eq_map]
  refine ⟨fun x hx => ?_, fun l hl hbranches => ?_, fun hall => ?_⟩
  · obtain ⟨l, hplain, hhead⟩ := Option.bind_eq_some_iff.mp hx
    obtain ⟨hl, hbranches⟩ := (plainSegments?_eq_some_iff htrim hne').mp hplain
    rw [hl, Option.map_some, follow_eq_singleton hbranches hhead]
  · have hplain : plainSegments? path.toList = some l :=
      (plainSegments?_eq_some_iff htrim hne').mpr ⟨hl, hbranches⟩
    refine ⟨by rw [hplain, hl], follow l v, by rw [hl]; rfl, length_follow_le hbranches v⟩
  · have hnone : plainSegments? path.toList = none := by
      refine Option.eq_none_iff_forall_ne_some.mpr fun l hplain => ?_
      obtain ⟨hl, hbranches⟩ := (plainSegments?_eq_some_iff htrim hne').mp hplain
      rw [hall l hl] at hbranches
      exact Bool.noConfusion hbranches
    rw [hnone]
    rfl

/-- A member of an item: the path and its expression `$.items[-1].id` lead to the same value. -/
theorem lookup_agrees_item :
    let v := Json.object [("items", .array [.null, .object [("id", .ofNat 7)]])]
    let segments := [Segment.field "items", .index (-1), .field "id"]
    ("items[-1].id" ≠ "" ∧ trim "items[-1].id".toList = "items[-1].id".toList) ∧
    (expressionSegments? (expressionOf "items[-1].id") = some segments ∧
      segments.any Segment.branches = false) ∧
    (lookup v "items[-1].id" = some (.ofNat 7) ∧
      lookup v "items[-1].id" = first v (expressionOf "items[-1].id") ∧
      select v (expressionOf "items[-1].id") = some [.ofNat 7]) := by
  intro v segments
  have hne : "items[-1].id" ≠ "" := by decide
  have htrim : trim "items[-1].id".toList = "items[-1].id".toList := by decide
  have hread : expressionSegments? (expressionOf "items[-1].id") = some segments := by
    decide +kernel
  have hbranches : segments.any Segment.branches = false := rfl
  obtain ⟨hfound, hagree, -⟩ := lookup_agrees hne htrim v
  have hlookup : lookup v "items[-1].id" = some (.ofNat 7) := by
    rw [(hagree segments hread hbranches).1, first_eq_bind_expression, hread]
    rfl
  exact ⟨⟨hne, htrim⟩, ⟨hread, hbranches⟩, hlookup, (hagree segments hread hbranches).1,
    hfound _ hlookup⟩

end HttpSuite.JsonPath
