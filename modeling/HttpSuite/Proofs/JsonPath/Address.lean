/-
HttpSuite/Proofs/JsonPath/Address.lean

The address of a value inside another one.  A value is reached by steps, from an object to a member
and from an array to an item, and each step has a text:

    member name   ['name']
    item n        [n]

Behind a dollar sign these texts are the address.  It is read back step by step, unless a name holds
a closing bracket: the bracket of the step is taken to be closed by the first one, quoted or not.

Main result: an address selects the one value that its steps lead to, in every value where they lead
to one, exactly when all of its steps are legible; and an index selects from an array the item that
it counts to from the front or, if it is negative, from the end (`select_address_iff`).  The way from
the addresses to the steps needs values in which the steps lead to something (`holding`).
-/
import HttpSuite.Proofs.JsonPath.Composition
import HttpSuite.Proofs.Text.Decimal

namespace HttpSuite

open Text (trim)

/-! ### Steps -/

namespace Json

/-- A step from a value to one directly inside it. -/
inductive Step where
  | member (name : String)
  | item (n : Nat)
deriving DecidableEq, Repr

/-- The value that steps lead to. -/
def at? : List Step → Json → Option Json
  | [], v => some v
  | .member name :: path, v => (v.get? name).bind (at? path)
  | .item n :: path, v => (v.item? n).bind (at? path)

namespace Step

/-- The text of a step. -/
def text : Step → List Char
  | member name => '[' :: ('\'' :: (name.toList ++ ['\'']) ++ [']'])
  | item n => '[' :: ((toString n).toList ++ [']'])

/-- The segment that takes a step. -/
def segment : Step → JsonPath.Segment
  | member name => .field name
  | item n => .index n

/-- Whether the text of a step is read back: a name must not hold the bracket that closes the step,
and a number must fit in 64 bits with a sign. -/
def Legible : Step → Prop
  | member name => ']' ∉ name.toList
  | item n => n < 2 ^ 63

end Step

/-- An index counts from the front, or from the end if it is negative. -/
theorem item?_of_counts {items : List Json} {n : Nat} {item : Json} {k : Int}
    (hitem : items[n]? = some item) (hk : k = n ∨ k = n - items.length) :
    (array items).item? k = some item := by
  obtain ⟨hn, -⟩ := List.getElem?_eq_some_iff.mp hitem
  cases k with
  | ofNat m =>
      obtain rfl : m = n := by
        rw [Int.ofNat_eq_natCast] at hk
        omega
      exact hitem
  | negSucc m =>
      obtain ⟨hm, hplace⟩ : m < items.length ∧ items.length - (m + 1) = n := by omega
      rw [item?, if_pos hm, hplace, hitem]

theorem item?_eq_none {items : List Json} {k : Int} (hk : k < -items.length ∨ items.length ≤ k) :
    (array items).item? k = none := by
  cases k with
  | ofNat m =>
      rw [Int.ofNat_eq_natCast] at hk
      exact List.getElem?_eq_none (by omega)
  | negSucc m => rw [item?, if_neg (by omega)]

/-- The address of what steps lead to. -/
def address (path : List Step) : String := "$" ++ String.ofList (path.flatMap Step.text)

/-- A value in which steps lead to something. -/
def holding : List Step → Json
  | [] => null
  | .member name :: path => object [(name, holding path)]
  | .item n :: path => array (List.replicate (n + 1) (holding path))

theorem at?_holding (path : List Step) : at? path (holding path) = some null := by
  induction path with
  | nil => rfl
  | cons step path ih =>
      cases step with
      | member name => simp [at?, holding, get?, Table.find?, ih]
      | item n =>
          rw [at?, holding]
          exact (congrArg (Option.bind · (at? path)) (JsonPath.item?_replicate n _)).trans ih

end Json

namespace JsonPath

open Json (Step)

/-! ### Brackets -/

/-- What does not start with a quote between brackets is a number, or the asterisk. -/
theorem bracketSegment_of_unquoted {s : List Char} (hstar : s ≠ ['*'])
    (hsingle : s.head? ≠ some '\'') (hdouble : s.head? ≠ some '"') :
    bracketSegment s = (Ascii.int64OfDigits? s).map .index := by
  rw [bracketSegment]
  · simp [hsingle, hdouble]
  · exact hstar

/-- What starts with a quote between brackets is a name with another quote at its end, or nothing. -/
theorem bracketSegment_quote (s : List Char) :
    bracketSegment ('\'' :: s) =
      if s.getLast? = some '\'' then some (.field (String.ofList s.dropLast)) else none := by
  -- without the quote at its end it would have to be a number
  have hnumber : Ascii.int64OfDigits? ('\'' :: s) = none := by
    rw [Ascii.int64OfDigits?, Ascii.intOfDigits?, Ascii.natOfDigits?]
    · rw [if_pos (by simp [Ascii.isDigit])]
      rfl
    all_goals simp
  rw [bracketSegment]
  · rcases s with - | ⟨c, s⟩
    · simp [hnumber]
    · simp [hnumber, List.getLast?_cons_cons]
  · simp

/-- The characters of a number are neither blanks nor marks of the notation. -/
theorem ne_marks_of_mem_toString {k : Int} {c : Char} (h : c ∈ (toString k).toList) :
    Text.isBlank c = false ∧ c ≠ '*' ∧ c ≠ '\'' ∧ c ≠ '"' ∧ c ≠ ']' := by
  rcases Ascii.of_mem_toString h with rfl | hdigit
  · decide
  · have hcode := Ascii.isDigit_iff.mp hdigit
    refine ⟨?_, ?_⟩
    · exact Text.isBlank_of_toNat (by omega) (by omega)
    · refine ⟨?_, ?_, ?_, ?_⟩ <;> rintro rfl <;> exact absurd hcode (by decide)

theorem closing_not_mem_toString (k : Int) : ']' ∉ (toString k).toList := fun h =>
  (ne_marks_of_mem_toString h).2.2.2.2 rfl

/-- Between brackets a number is an index, if it fits in 64 bits. -/
theorem bracketSegment_toString (k : Int) :
    bracketSegment (trim (toString k).toList) =
      if -2 ^ 63 ≤ k ∧ k < 2 ^ 63 then some (.index k) else none := by
  have hmarks : ∀ c ∈ (toString k).toList, _ := fun c hc => ne_marks_of_mem_toString hc
  have htrim : trim (toString k).toList = (toString k).toList := Text.trim_eq_self_iff.mpr
    ⟨fun c hc => (hmarks c (List.mem_of_head? hc)).1,
      fun c hc => (hmarks c (List.mem_of_getLast? hc)).1⟩
  rw [htrim, bracketSegment_of_unquoted, Ascii.int64OfDigits?_toString]
  · split <;> rfl
  · exact fun h => (hmarks '*' (h ▸ List.mem_singleton_self _)).2.1 rfl
  · exact fun h => (hmarks _ (List.mem_of_head? h)).2.2.1 rfl
  · exact fun h => (hmarks _ (List.mem_of_head? h)).2.2.2.1 rfl

/-- Between brackets a name in quotes is a member, whatever the name. -/
theorem bracketSegment_quoted (name : List Char) :
    bracketSegment (trim ('\'' :: (name ++ ['\'']))) = some (.field (String.ofList name)) := by
  have htrim : trim ('\'' :: (name ++ ['\''])) = '\'' :: (name ++ ['\'']) := by
    rw [Text.trim_cons_of_not_blank (by decide), Text.trimEnd_append_of_not_blank (by decide)]
  rw [htrim, bracketSegment_quote, if_pos List.getLast?_concat, List.dropLast_concat]

/-- A name that is read between brackets holds no bracket if the text there holds none. -/
theorem not_mem_of_bracketSegment {s : List Char} {segment : Segment} (hs : ']' ∉ s)
    (h : bracketSegment (trim ('\'' :: s)) = some segment) :
    ∃ name, segment = .field name ∧ ']' ∉ name.toList := by
  have htrim : trim ('\'' :: s) = '\'' :: Text.trimEnd s :=
    Text.trim_cons_of_not_blank (by decide) s
  rw [htrim, bracketSegment_quote] at h
  split at h
  · rw [Option.some.injEq] at h
    refine ⟨_, h.symm, fun hmem => hs ?_⟩
    rw [String.toList_ofList] at hmem
    have hfront : ']' ∈ trim ('\'' :: s) :=
      htrim ▸ List.mem_cons_of_mem _ ((List.dropLast_sublist _).subset hmem)
    simpa using Text.mem_of_mem_trim hfront
  · simp at h

/-! ### Addresses -/

/-- **One step**: the text of a legible step writes the segment that takes it. -/
theorem spells_text {step : Step} (h : step.Legible) : Spells step.text step.segment := by
  cases step with
  | member name =>
      have hname : bracketSegment (trim ('\'' :: (name.toList ++ ['\'']))) = some (.field name) := by
        rw [bracketSegment_quoted, String.ofList_toList]
      refine .bracket ?_ hname
      simpa [Step.Legible] using h
  | item n =>
      have hn : -2 ^ 63 ≤ (n : Int) ∧ (n : Int) < 2 ^ 63 := by
        rw [Step.Legible] at h
        omega
      exact .bracket (closing_not_mem_toString n) ((bracketSegment_toString n).trans (if_pos hn))

/-- Legible steps write the segments that take them. -/
theorem segments_text {path : List Step} (h : ∀ step ∈ path, step.Legible) :
    segments (path.flatMap Step.text) = some (path.map Step.segment) := by
  refine segments_eq_some_iff.mpr ⟨path.map Step.text, List.flatMap_def, ?_⟩
  exact List.forall₂_map_left_iff.mpr (List.forall₂_map_right_iff.mpr
    (List.forall₂_same.mpr fun step hstep => spells_text (h step hstep)))

theorem follow_map_segment (path : List Step) (v : Json) :
    follow (path.map Step.segment) v = (v.at? path).toList := by
  induction path generalizing v with
  | nil => rfl
  | cons step path ih =>
      cases step with
      | member name =>
          rw [List.map_cons, follow, Json.at?]
          cases hnext : v.get? name with
          | none => simp [Step.segment, Segment.step, hnext]
          | some next => simp [Step.segment, Segment.step, hnext, ih]
      | item n =>
          rw [List.map_cons, follow, Json.at?]
          cases hnext : v.item? n with
          | none => simp [Step.segment, Segment.step, hnext]
          | some next => simp [Step.segment, Segment.step, hnext, ih]

theorem step_holding (step : Step) (path : List Step) :
    step.segment.step (Json.holding (step :: path)) = [Json.holding path] := by
  cases step with
  | member name => simp [Step.segment, Segment.step, Json.holding, Json.get?, Table.find?]
  | item n => exact congrArg Option.toList (item?_replicate n (Json.holding path))

/-- A step that is not legible is read as none, or as the step to a member of another name. -/
theorem follow_holding_of_not_legible {step : Step} (h : ¬ step.Legible) {rest : List Char}
    {l : List Segment} (hl : segments (step.text ++ rest) = some l) (path : List Step) :
    follow l (Json.holding (step :: path)) = [] := by
  cases step with
  | member name =>
      have hmem : ']' ∈ name.toList := not_not.mp h
      obtain ⟨before, after, hname, hbefore⟩ := List.eq_append_cons_of_mem hmem
      -- the bracket in the name closes the step
      have htext : (Step.member name).text ++ rest =
          '[' :: (('\'' :: before) ++ ']' :: (after ++ '\'' :: ']' :: rest)) := by
        simp [Step.text, hname]
      rw [htext, segments_bracket (by simpa using hbefore)] at hl
      obtain ⟨segment, hsegment, hrest⟩ := Option.bind_eq_some_iff.mp hl
      obtain ⟨other, rfl, hother⟩ := not_mem_of_bracketSegment hbefore hsegment
      obtain ⟨l', -, rfl⟩ := Option.map_eq_some_iff.mp hrest
      have hne : other ≠ name := fun heq => hother (heq ▸ hmem)
      simp [follow, Segment.step, Json.holding, Json.get?, Table.find?, hne]
  | item n =>
      have hn : ¬ (-2 ^ 63 ≤ (n : Int) ∧ (n : Int) < 2 ^ 63) := by
        rw [Step.Legible] at h
        omega
      have htext : (Step.item n).text ++ rest =
          '[' :: ((toString (n : Int)).toList ++ ']' :: rest) := by
        rw [Step.text, List.cons_append, List.append_assoc]
        rfl
      rw [htext, segments_bracket (closing_not_mem_toString n), bracketSegment_toString,
        if_neg hn] at hl
      simp at hl

theorem endsName_text (path : List Step) : EndsName (path.flatMap Step.text) := by
  rcases path with - | ⟨step, path⟩
  · exact .nil
  · cases step <;> exact .cons_bracket _

/-- Where the text of steps leads to something in the value that holds them, they are legible. -/
theorem legible_of_follow_ne_nil {path : List Step} {l : List Segment}
    (hl : segments (path.flatMap Step.text) = some l)
    (hne : follow l (Json.holding path) ≠ []) : ∀ step ∈ path, step.Legible := by
  induction path generalizing l with
  | nil => simp
  | cons step path ih =>
      rw [List.flatMap_cons] at hl
      by_cases hstep : step.Legible
      · rw [(spells_text hstep).segments_append (endsName_text path)] at hl
        obtain ⟨l', hl', rfl⟩ := Option.map_eq_some_iff.mp hl
        rw [follow, step_holding, List.flatMap_singleton] at hne
        exact List.forall_mem_cons.mpr ⟨hstep, ih hl' hne⟩
      · -- what is read of this step leads to nothing in the value made for it
        exact absurd (follow_holding_of_not_legible hstep hl path) hne

theorem trim_bracket (inner : List Char) :
    trim ('[' :: (inner ++ [']'])) = '[' :: (inner ++ [']']) := by
  rw [Text.trim_cons_of_not_blank (by decide), Text.trimEnd_append_of_not_blank (by decide)]

theorem trim_flatMap_text (path : List Step) :
    trim (path.flatMap Step.text) = path.flatMap Step.text := by
  induction path with
  | nil => rfl
  | cons step path ih =>
      refine Text.trim_append ?_ ih
      cases step <;> exact trim_bracket _

theorem select_address (path : List Step) (v : Json) :
    select v (Json.address path) = (segments (path.flatMap Step.text)).map (follow · v) := by
  rw [Json.address, select_dollar, String.toList_ofList]
  rw [String.toList_ofList]
  exact trim_flatMap_text path

/-- A number between brackets selects the item at this index. -/
theorem select_index (items : List Json) (k : Int64) :
    select (.array items) ("$[" ++ toString k.toInt ++ "]") =
      some ((Json.array items).item? k.toInt).toList := by
  have htext : ("[" ++ toString k.toInt ++ "]").toList =
      '[' :: ((toString k.toInt).toList ++ ']' :: []) := by
    simp
  have htrim : trim ("[" ++ toString k.toInt ++ "]").toList =
      ("[" ++ toString k.toInt ++ "]").toList := by
    rw [htext]
    exact trim_bracket _
  have hexpression : "$[" ++ toString k.toInt ++ "]" = "$" ++ ("[" ++ toString k.toInt ++ "]") :=
    String.toList_inj.mp (by simp)
  rw [hexpression, select_dollar htrim, htext, segments_bracket (closing_not_mem_toString _),
    bracketSegment_toString, if_pos ⟨k.le_toInt, k.toInt_lt⟩, Option.bind_some, segments,
    Option.map_some, Option.map_some]
  simp [follow, Segment.step]

/-- **Addresses**: an address selects the one value that its steps lead to, in every value in which
they lead to one, exactly when its steps are legible.  A number between brackets selects from an
array the item that it counts to, from the front or from the end, and nothing if there is none. -/
theorem select_address_iff (path : List Step) (items : List Json) (k : Int64) :
    ((∀ v node : Json, v.at? path = some node → select v (Json.address path) = some [node]) ↔
      ∀ step ∈ path, step.Legible) ∧
    (∀ (n : Nat) (item : Json), items[n]? = some item →
      k.toInt = n ∨ k.toInt = n - items.length →
        select (.array items) ("$[" ++ toString k.toInt ++ "]") = some [item]) ∧
    (k.toInt < -items.length ∨ items.length ≤ k.toInt →
      select (.array items) ("$[" ++ toString k.toInt ++ "]") = some []) := by
  refine ⟨⟨fun hselect => ?_, fun hlegible v node hnode => ?_⟩, fun n item hitem hk => ?_,
    fun hk => ?_⟩
  · -- it is enough to look at the value that is made up of the steps
    have hholding := hselect _ _ (Json.at?_holding path)
    rw [select_address] at hholding
    obtain ⟨l, hl, hfollow⟩ := Option.map_eq_some_iff.mp hholding
    exact legible_of_follow_ne_nil hl (by simp [hfollow])
  · rw [select_address, segments_text hlegible, Option.map_some, follow_map_segment, hnode,
      Option.toList_some]
  · rw [select_index, Json.item?_of_counts hitem hk, Option.toList_some]
  · rw [select_index, Json.item?_eq_none hk, Option.toList_none]

/-- Names with a full stop, without any character and with quotes, blanks and an opening bracket. -/
theorem select_address_names :
    let path := [Step.member "meta.key", .item 1, .member "", .member "it's [\"é\" ..*"]
    let v := Json.object [("meta.key", .array [.null,
      .object [("", .object [("it's [\"é\" ..*", .ofNat 7)])]])]
    ((∀ step ∈ path, step.Legible) ∧ v.at? path = some (.ofNat 7) ∧
      Json.address path = "$['meta.key'][1]['']['it's [\"é\" ..*']" ∧
        select v (Json.address path) = some [.ofNat 7]) ∧
    select (.array [.ofNat 5, .ofNat 6]) ("$[" ++ toString (-1 : Int64).toInt ++ "]") =
      some [.ofNat 6] ∧
    select (.array [.ofNat 5]) ("$[" ++ toString Int64.minValue.toInt ++ "]") = some [] := by
  intro path v
  have hlegible : ∀ step ∈ path, step.Legible := by
    simp [path, Step.Legible]
  have hnode : v.at? path = some (.ofNat 7) := by
    simp [path, v, Json.at?, Json.get?, Json.item?, Table.find?]
  refine ⟨⟨hlegible, hnode, by decide, ?_⟩, ?_, ?_⟩
  · exact (select_address_iff path [] 0).1.mpr hlegible v _ hnode
  · exact (select_address_iff path _ (-1)).2.1 1 _ rfl (.inr rfl)
  · exact (select_address_iff path _ Int64.minValue).2.2 (.inl (by decide))

/-- The bracket in a name ends the step, so that nothing is an expression any more. -/
theorem select_address_closingBracket :
    let v := Json.object [("a]b", .ofNat 1)]
    v.at? [.member "a]b"] = some (.ofNat 1) ∧ Json.address [.member "a]b"] = "$['a]b']" ∧
      select v (Json.address [.member "a]b"]) = none ∧
        ¬ ∀ (path : List Step) (v node : Json),
          v.at? path = some node → select v (Json.address path) = some [node] := by
  intro v
  have hnode : v.at? [.member "a]b"] = some (.ofNat 1) := by
    simp [v, Json.at?, Json.get?, Table.find?]
  have hnone : select v (Json.address [.member "a]b"]) = none :=
    Option.isNone_iff_eq_none.mp (by decide +kernel)
  refine ⟨hnode, by decide, hnone, fun hall => ?_⟩
  have hfound := hall _ v _ hnode
  rw [hnone] at hfound
  simp at hfound

end JsonPath

end HttpSuite
