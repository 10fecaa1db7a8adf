/-
HttpSuite/Proofs/JsonPath/Composition.lean

The notation of paths, and paths behind paths.  Each segment has its own texts (`Spells`):

    .name   ..name      a member, here or at any depth
    .*      ..*   [*]   everything, here or at any depth
    ['name']   [7]      a member or an item

Each of them starts with a full stop or a bracket, and those end a name.  So a text writes segments
exactly when it is made up of texts of these segments (`segments_eq_some_iff`), wherever the seams
are, and nothing of what stands in front of a seam has to be read again for what stands behind.

Main result: the segments of two texts joined are those of the first and then those of the second,
and the joined path leads where the second path leads from each value that the first one leads to
(`select_append`).
-/
import HttpSuite.JsonPath
import HttpSuite.Proofs.Text.Lines
import Mathlib.Data.List.Forall2

namespace HttpSuite.JsonPath

open Text (trim)

/-! ### Values -/

/-- Segments behind segments lead on from where those lead. -/
theorem follow_append (l l' : List Segment) (v : Json) :
    follow (l ++ l') v = (follow l v).flatMap (follow l') := by
  rw [← reach_eq_follow, reach, List.foldl_append, foldl_step_eq_flatMap, ← reach,
    reach_eq_follow]

theorem follow_field_object (name : String) (l : List Segment) (v : Json) :
    follow (.field name :: l) (.object [(name, v)]) = follow l v := by
  simp [follow, Segment.step, Json.get?, Table.find?]

/-- An array has its last item at the index of that item. -/
theorem item?_replicate (n : Nat) (v : Json) :
    (Json.array (List.replicate (n + 1) v)).item? (.ofNat n) = some v := by
  simp [Json.item?]

/-! ### Notation -/

/-- A name outside brackets. -/
structure IsName (name : List Char) : Prop where
  ne_nil : name ≠ []
  chars : ∀ c ∈ name, isNameChar c = true
  /-- An asterisk in front is no part of a name. -/
  noStar : name.head? ≠ some '*'

/-- `Spells text segment`: the text writes the segment. -/
inductive Spells : List Char → Segment → Prop
  | field {name} : IsName name → Spells ('.' :: name) (.field (String.ofList name))
  | wildcard : Spells ['.', '*'] .wildcard
  | descend {name} :
      IsName name → Spells ('.' :: '.' :: name) (.descend (some (String.ofList name)))
  | descendAll : Spells ['.', '.', '*'] (.descend none)
  | bracket {inner segment} :
      ']' ∉ inner → bracketSegment (trim inner) = some segment →
      Spells ('[' :: (inner ++ [']'])) segment

/-- A text behind a name: it does not go on with the name. -/
def EndsName (rest : List Char) : Prop := ∀ c, rest.head? = some c → isNameChar c = false

theorem EndsName.cons_stop (s : List Char) : EndsName ('.' :: s) := by
  rintro c ⟨⟩
  rfl

theorem EndsName.cons_bracket (s : List Char) : EndsName ('[' :: s) := by
  rintro c ⟨⟩
  rfl

theorem EndsName.nil : EndsName [] := by
  rintro c ⟨⟩

/-- Whatever writes segments can stand behind a name. -/
theorem endsName_of_segments {s : List Char} {l : List Segment} (h : segments s = some l) :
    EndsName s := by
  rcases s with - | ⟨c, s⟩
  · exact .nil
  · by_cases hstop : c = '.'
    · exact hstop ▸ .cons_stop s
    · by_cases hbracket : c = '['
      · exact hbracket ▸ .cons_bracket s
      · rw [segments_cons_eq_none hstop hbracket] at h
        exact absurd h (by simp)

/-- A name is cut from what stands behind it. -/
theorem IsName.cut {name rest : List Char} (h : IsName name) (hrest : EndsName rest) :
    (name ++ rest).takeWhile isNameChar = name ∧ (name ++ rest).dropWhile isNameChar = rest := by
  rw [List.takeWhile_append_of_pos h.chars, List.dropWhile_append_of_pos h.chars]
  rcases rest with - | ⟨c, rest⟩
  · simp
  · have hc : ¬ isNameChar c = true := by simpa using hrest c rfl
    rw [List.takeWhile_cons_of_neg hc, List.dropWhile_cons_of_neg hc, List.append_nil]
    exact ⟨rfl, rfl⟩

/-- A name starts neither with a full stop nor with an asterisk. -/
theorem IsName.exists_cons {name : List Char} (h : IsName name) :
    ∃ c tail, name = c :: tail ∧ c ≠ '.' ∧ c ≠ '*' := by
  obtain ⟨c, tail, rfl⟩ := List.exists_cons_of_ne_nil h.ne_nil
  refine ⟨c, tail, rfl, ?_, fun hc => h.noStar (by rw [hc]; rfl)⟩
  rintro rfl
  exact absurd (h.chars _ List.mem_cons_self) (by decide)

theorem segments_field {name rest : List Char} (hname : IsName name) (hrest : EndsName rest) :
    segments ('.' :: (name ++ rest)) =
      (segments rest).map (.field (String.ofList name) :: ·) := by
  obtain ⟨htake, hdrop⟩ := hname.cut hrest
  obtain ⟨c, tail, rfl, hstop, hstar⟩ := hname.exists_cons
  rw [segments, htake, hdrop]
  all_goals simp_all

theorem segments_descend {name rest : List Char} (hname : IsName name) (hrest : EndsName rest) :
    segments ('.' :: '.' :: (name ++ rest)) =
      (segments rest).map (.descend (some (String.ofList name)) :: ·) := by
  obtain ⟨htake, hdrop⟩ := hname.cut hrest
  obtain ⟨c, tail, rfl, hstop, hstar⟩ := hname.exists_cons
  rw [segments, htake, hdrop]
  all_goals simp_all

theorem segments_bracket {inner : List Char} (hinner : ']' ∉ inner) (rest : List Char) :
    segments ('[' :: (inner ++ ']' :: rest)) =
      (bracketSegment (trim inner)).bind fun segment => (segments rest).map (segment :: ·) := by
  have hchars : ∀ c ∈ inner, (c != ']') = true := by
    intro c hc
    simpa using fun h : c = ']' => hinner (h ▸ hc)
  rw [segments, List.takeWhile_append_of_pos hchars, List.dropWhile_append_of_pos hchars,
    List.takeWhile_cons_of_neg (by simp), List.dropWhile_cons_of_neg (by simp)]
  cases hsegment : bracketSegment (trim inner) <;> simp [hsegment]

/-- **One segment**: a text that writes a segment is read as that segment, and reading goes on
behind it. -/
theorem Spells.segments_append {text rest : List Char} {segment : Segment}
    (h : Spells text segment) (hrest : EndsName rest) :
    segments (text ++ rest) = (segments rest).map (segment :: ·) := by
  cases h with
  | field hname => exact segments_field hname hrest
  | wildcard => rw [List.cons_append, List.cons_append, List.nil_append, segments]
  | descend hname => exact segments_descend hname hrest
  | descendAll => rw [List.cons_append, List.cons_append, List.cons_append, List.nil_append, segments]
  | @bracket inner segment hinner hsegment =>
      rw [List.cons_append, List.append_assoc]
      exact (segments_bracket hinner rest).trans (by rw [hsegment, Option.bind_some])

/-- What is read as a name is one, unless an asterisk stands in front. -/
theorem isName_takeWhile {rest : List Char} (hne : ¬ (rest.takeWhile isNameChar).isEmpty = true)
    (hstar : ∀ tail, rest = '*' :: tail → False) : IsName (rest.takeWhile isNameChar) where
  ne_nil := by simpa using hne
  chars := List.all_eq_true.mp List.all_takeWhile
  noStar := by
    intro hhead
    rcases rest with - | ⟨c, tail⟩
    · simp at hhead
    · by_cases hc : isNameChar c = true
      · rw [List.takeWhile_cons_of_pos hc] at hhead
        obtain rfl : c = '*' := by simpa using hhead
        exact hstar tail rfl
      · rw [List.takeWhile_cons_of_neg hc] at hhead
        simp at hhead

/-- What stands in front of the first closing bracket is cut from it. -/
theorem exists_eq_takeWhile_append {rest : List Char}
    (h : ¬ (rest.takeWhile (· != ']')).length = rest.length) :
    ∃ tail, rest = rest.takeWhile (· != ']') ++ ']' :: tail ∧
      (rest.dropWhile (· != ']')).tail = tail := by
  have hsplit := List.takeWhile_append_dropWhile (p := (· != ']')) (l := rest)
  rcases hdrop : rest.dropWhile (· != ']') with - | ⟨c, tail⟩
  · rw [hdrop, List.append_nil] at hsplit
    exact absurd (congrArg List.length hsplit) h
  · have hne : rest.dropWhile (· != ']') ≠ [] := by simp [hdrop]
    have hc := List.head_dropWhile_not (· != ']') hne
    simp only [hdrop, List.head_cons] at hc
    obtain rfl : c = ']' := by simpa using hc
    exact ⟨tail, by rw [← hdrop, hsplit], rfl⟩

/-- The first of the segments that are read is the one that was put in front. -/
theorem of_map_cons {first segment : Segment} {read : Option (List Segment)} {l : List Segment}
    (h : read.map (first :: ·) = some (segment :: l)) : first = segment ∧ read = some l := by
  obtain ⟨l', hl', hcons⟩ := Option.map_eq_some_iff.mp h
  obtain ⟨rfl, rfl⟩ := List.cons.inj hcons
  exact ⟨rfl, hl'⟩

/-- The first segment that a text writes has its text in front. -/
theorem exists_spells {s : List Char} {segment : Segment} {l : List Segment}
    (h : segments s = some (segment :: l)) :
    ∃ text rest, s = text ++ rest ∧ Spells text segment ∧ segments rest = some l := by
  revert h
  fun_cases segments s with
  | case2 rest =>
      intro h
      obtain ⟨rfl, hl⟩ := of_map_cons h
      exact ⟨_, rest, rfl, .descendAll, hl⟩
  | case4 rest hstar name hne =>
      intro h
      obtain ⟨rfl, hl⟩ := of_map_cons h
      refine ⟨'.' :: '.' :: name, _, ?_, .descend (isName_takeWhile hne hstar), hl⟩
      rw [List.cons_append, List.cons_append, List.takeWhile_append_dropWhile]
  | case5 rest =>
      intro h
      obtain ⟨rfl, hl⟩ := of_map_cons h
      exact ⟨_, rest, rfl, .wildcard, hl⟩
  | case7 rest _ _ hstar name hne =>
      intro h
      obtain ⟨rfl, hl⟩ := of_map_cons h
      refine ⟨'.' :: name, _, ?_, .field (isName_takeWhile hne hstar), hl⟩
      rw [List.cons_append, List.takeWhile_append_dropWhile]
  | case10 rest inner hclosed segment' hsegment =>
      intro h
      obtain ⟨rfl, hl⟩ := of_map_cons h
      obtain ⟨tail, hrest, htail⟩ := exists_eq_takeWhile_append hclosed
      have hinner : ']' ∉ inner := fun hmem => by
        simpa using List.all_eq_true.mp List.all_takeWhile _ hmem
      refine ⟨'[' :: (inner ++ [']']), tail, ?_, .bracket hinner hsegment, htail ▸ hl⟩
      rw [List.cons_append, List.append_assoc, List.singleton_append, ← hrest]
  -- in the other cases nothing or no segment is read
  | _ => simp

/-- The text of no segments is empty. -/
theorem eq_nil_of_segments {s : List Char} (h : segments s = some []) : s = [] := by
  revert h
  fun_cases segments s <;> simp

/-- **Notation**: a text writes segments exactly when it is made up of texts of each of them. -/
theorem segments_eq_some_iff {s : List Char} {l : List Segment} :
    segments s = some l ↔ ∃ texts, s = texts.flatten ∧ List.Forall₂ Spells texts l := by
  constructor
  · intro h
    induction l generalizing s with
    | nil => exact ⟨[], eq_nil_of_segments h, .nil⟩
    | cons segment l ih =>
        obtain ⟨text, rest, rfl, htext, hrest⟩ := exists_spells h
        obtain ⟨texts, rfl, htexts⟩ := ih hrest
        exact ⟨text :: texts, rfl, .cons htext htexts⟩
  · rintro ⟨texts, rfl, h⟩
    induction h with
    | nil => rw [List.flatten_nil, segments]
    | cons htext _ ih =>
        -- what follows writes segments, so it does not go on with a name
        rw [List.flatten_cons, htext.segments_append (endsName_of_segments ih), ih, Option.map_some]

/-- The segments of joined texts are those of the one and then those of the other. -/
theorem segments_append {a b : List Char} {la lb : List Segment} (ha : segments a = some la)
    (hb : segments b = some lb) : segments (a ++ b) = some (la ++ lb) := by
  obtain ⟨as, rfl, has⟩ := segments_eq_some_iff.mp ha
  obtain ⟨bs, rfl, hbs⟩ := segments_eq_some_iff.mp hb
  rw [← List.flatten_append]
  exact segments_eq_some_iff.mpr ⟨as ++ bs, rfl, List.rel_append has hbs⟩

/-! ### Expressions -/

/-- A trimmed text behind a dollar sign is an expression if it writes segments. -/
theorem select_dollar {s : String} (htrim : trim s.toList = s.toList) (v : Json) :
    select v ("$" ++ s) = (segments s.toList).map (follow · v) := by
  have hexpression : trim ("$" ++ s).toList = '$' :: s.toList := by
    rw [String.toList_append]
    exact Text.trim_append (s := ['$']) (by decide) htrim
  rw [select, hexpression]
  simp only [reach_eq_follow]

/-- **Composition**: two trimmed texts that write segments write those of the one and then those of
the other when they are joined.  As an expression the joined text selects, in order, what the second
one selects from each of the values that the first one selects. -/
theorem select_append (v : Json) {a b : String} {la lb : List Segment}
    (ha : segments a.toList = some la) (hb : segments b.toList = some lb)
    (htrimA : trim a.toList = a.toList) (htrimB : trim b.toList = b.toList) :
    segments (a ++ b).toList = some (la ++ lb) ∧
      ∃ ws parts, select v ("$" ++ a) = some ws ∧
        List.Forall₂ (fun w part => select w ("$" ++ b) = some part) ws parts ∧
          select v ("$" ++ (a ++ b)) = some parts.flatten := by
  have hjoined : segments (a ++ b).toList = some (la ++ lb) := by
    rw [String.toList_append]
    exact segments_append ha hb
  have htrim : trim (a ++ b).toList = (a ++ b).toList := by
    rw [String.toList_append]
    exact Text.trim_append htrimA htrimB
  -- the parts are what the second text selects from each value of the first
  refine ⟨hjoined, follow la v, (follow la v).map (follow lb), ?_, ?_, ?_⟩
  · rw [select_dollar htrimA, ha, Option.map_some]
  · refine List.forall₂_map_right_iff.mpr (List.forall₂_same.mpr fun w _ => ?_)
    rw [select_dollar htrimB, hb, Option.map_some]
  · rw [select_dollar htrim, hjoined, Option.map_some, follow_append, List.flatMap_def]

/-- The members of a name at any depth below each of the items of an array. -/
theorem select_append_descent :
    let item (n : Nat) := Json.object [("id", .ofNat n), ("sub", .object [("id", .ofNat (n + 1))])]
    let v := Json.object [("items", .array [item 1, item 5])]
    (segments ".items[*]".toList = some [.field "items", .wildcard] ∧
      segments "..id".toList = some [.descend (some "id")] ∧
      trim ".items[*]".toList = ".items[*]".toList ∧ trim "..id".toList = "..id".toList) ∧
    (∃ ws parts, select v ("$" ++ ".items[*]") = some ws ∧
      List.Forall₂ (fun w part => select w ("$" ++ "..id") = some part) ws parts ∧
        select v ("$" ++ (".items[*]" ++ "..id")) = some parts.flatten) ∧
    (select v "$.items[*]..id").map (·.map Json.render) = some ["1", "2", "5", "6"] := by
  intro item v
  have ha : segments ".items[*]".toList = some [.field "items", .wildcard] := by decide +kernel
  have hb : segments "..id".toList = some [.descend (some "id")] := by decide +kernel
  have htrimA : trim ".items[*]".toList = ".items[*]".toList := by decide
  have htrimB : trim "..id".toList = "..id".toList := by decide
  refine ⟨⟨ha, hb, htrimA, htrimB⟩, ?_, by decide +kernel⟩
  exact (select_append v ha hb htrimA htrimB).2

end HttpSuite.JsonPath
