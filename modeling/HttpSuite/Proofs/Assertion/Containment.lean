/-
HttpSuite/Proofs/Assertion/Containment.lean

The operator `contains` with a word that stands without quotes.  The word is read as a value first,
as it is for every operator, and what is looked for is the text of this value:

    null, true, false    the word again
    a number             the digits of the number without an exponent, as few as there can be
    any other word       the word again

So a number is looked for in one spelling, however it was written: `1.10` as `1.1`, `1e3` as `1000`,
`nan` as `NaN`.

Main result: a line `path contains word` passes for exactly the texts that hold the word if the word
is no number or the number is spelled so, and for no other words (`contains_word_iff`).
-/
import HttpSuite.Assertion.Evaluate
import HttpSuite.Proofs.Assertion.Notation

namespace HttpSuite.Assertion

open Text (isBlank)

/-! ### Words without quotes -/

/-- A word that stands in an assertion as it is: it holds neither blanks nor quotes. -/
structure IsBareWord (word : List Char) : Prop where
  ne_nil : word ≠ []
  notBlank : ∀ c ∈ word, isBlank c = false
  noQuote : '"' ∉ word ∧ '\'' ∉ word

/-- The text that is looked for when a word is written. -/
def soughtFor (word : List Char) : List Char :=
  match Binary64.ofText? word with
  | some x => (NumberStyle.plain.render x).toList
  | none => word

variable {word : List Char}

/-- What does not hold a quote does not stand between two of them. -/
theorem Value.isQuoted_eq_false {quote : Char} (hquote : quote ∉ word) :
    Value.isQuoted quote word = false := by
  have hhead : word.head? ≠ some quote := fun hc => hquote (List.mem_of_head? hc)
  simp [Value.isQuoted, hhead]

namespace IsBareWord

/-- A bare word can stand on the right side of an operator. -/
theorem isOperand (h : IsBareWord word) : Expression.IsOperand word where
  ne_nil := h.ne_nil
  trimmed := by
    rw [Text.trim_eq_self_iff]
    constructor
    · intro c hc
      exact h.notBlank c (List.mem_of_head? hc)
    · intro c hc
      exact h.notBlank c (List.mem_of_getLast? hc)
  oneLine := by
    intro hfeed
    have hblank := h.notBlank '\n' hfeed
    exact absurd hblank (by decide)

/-- The text of the value that a bare word writes is what is looked for. -/
theorem text_ofTrimmed (h : IsBareWord word) :
    (Value.ofTrimmed word).text.toList = soughtFor word := by
  have hdouble := Value.isQuoted_eq_false h.noQuote.1
  have hsingle := Value.isQuoted_eq_false h.noQuote.2
  -- the three words for constants write no number
  have hconstant : ∀ {name : String}, String.ofList word = name →
      Binary64.ofText? name.toList = none → soughtFor word = name.toList := by
    rintro name rfl hnone
    rw [String.toList_ofList] at hnone ⊢
    rw [soughtFor, hnone]
  fun_cases Value.ofTrimmed word with
  | case1 text hnull =>
      rw [hconstant hnull rfl]
      rfl
  | case2 text _ htrue =>
      rw [hconstant htrue rfl]
      rfl
  | case3 text _ _ hfalse =>
      rw [hconstant hfalse rfl]
      rfl
  | case4 text _ _ _ hquoted =>
      rw [hdouble, hsingle] at hquoted
      exact absurd hquoted (by decide)
  | case5 text _ _ _ _ x hx =>
      rw [soughtFor, hx]
      rfl
  | case6 text _ _ _ _ hx =>
      rw [soughtFor, hx]
      show (String.ofList word).toList = word
      exact String.toList_ofList

end IsBareWord

/-! ### Lines -/

/-- The line that asks whether the text at a path holds a word. -/
def containsLine (path word : List Char) : List Char :=
  path ++ ' ' :: (Operator.contains.text.toList ++ ' ' :: word)

/-- The word of a path is there, and no comment starts with it. -/
theorem Path.isAssertion_append {path : List Char} {p : Path} (h : Path.ofWord path = .ok p)
    (rest : List Char) : isAssertion (path ++ rest) = true := by
  have htext : p.text.toList = path := Path.text_of_ofWord h
  rw [← htext]
  cases p with
  | status => rfl
  | header name =>
      rw [Path.text, String.toList_append]
      rfl
  | body name =>
      rw [Path.text]
      split
      · rfl
      · rw [String.toList_append]
        rfl
  | time => rfl

/-- A line has the one result of the assertion that it writes. -/
theorem results_singleton {r : Response} {line : List Char} {e : Expression}
    (htrim : Text.trim line = line) (hmeant : isAssertion line = true)
    (hread : Expression.ofLine line = .ok e) :
    results r [String.ofList line] = [e.evaluate r] := by
  have hline : Text.trim (String.ofList line).toList = line := by
    rw [String.toList_ofList, htrim]
  simp only [results, List.map_cons, List.map_nil, hline, List.filter_cons, hmeant, if_true,
    List.filter_nil, lineResult, hread]

/-- **One line**: for a path with a text, the line passes exactly when the text holds what is looked
for. -/
theorem results_containsLine {r : Response} {path : List Char} {p : Path} {s : String}
    (hword : IsBareWord word) (hblank : ∀ c ∈ path, isBlank c = false)
    (hpath : Path.ofWord path = .ok p) (hvalue : p.value r = .ok (.string s)) :
    ∃ result, results r [String.ofList (containsLine path word)] = [result] ∧
      (result.passed = true ↔ soughtFor word <:+: s.toList) := by
  have hne : path ≠ [] := by
    rintro rfl
    exact absurd hpath (by rintro ⟨⟩)
  have htrim : Text.trim (containsLine path word) = containsLine path word := by
    obtain ⟨c, tail, rfl⟩ := List.exists_cons_of_ne_nil hne
    have hright : Text.trim (Operator.contains.text.toList ++ ' ' :: word) =
        Operator.contains.text.toList ++ ' ' :: word :=
      Text.trim_append_cons rfl (by decide) hword.isOperand.trimmed hword.ne_nil
    exact Text.trim_append_cons rfl (hblank c List.mem_cons_self) hright (by simp)
  have hread : Expression.ofLine (containsLine path word) =
      .ok (.compare p .contains (Value.ofTrimmed word)) := by
    rw [containsLine, Expression.ofLine_compare hne hblank .contains hword.isOperand, hpath]
    rfl
  refine ⟨_, results_singleton htrim (Path.isAssertion_append hpath _) hread, ?_⟩
  have hholds : Operator.contains.holds (.string s) (Value.ofTrimmed word) =
      .ok (Text.contains (soughtFor word) s.toList) := by
    rw [← hword.text_ofTrimmed]
    rfl
  rw [← Text.contains_iff]
  simp only [Expression.evaluate, compareResult, hvalue, hholds]
  cases Text.contains (soughtFor word) s.toList with
  | true => simp
  | false => simp

/-! ### All texts -/

/-- The word is no number, or the number is spelled as it is written by itself. -/
def IsOwnText (word : List Char) : Prop :=
  ∀ x, Binary64.ofText? word = some x → (NumberStyle.plain.render x).toList = word

theorem soughtFor_eq_self_iff : soughtFor word = word ↔ IsOwnText word := by
  unfold soughtFor IsOwnText
  cases Binary64.ofText? word with
  | none => simp
  | some x => simp

/-- Texts that occur in the same texts are the same text. -/
theorem eq_of_forall_infix_iff {s t : List Char} (h : ∀ u : List Char, s <:+: u ↔ t <:+: u) :
    s = t := by
  have hst : s <:+: t := (h t).mpr List.infix_rfl
  have hts : t <:+: s := (h s).mp List.infix_rfl
  exact hst.eq_of_length (Nat.le_antisymm hst.length_le hts.length_le)

/-- A response whose header `x` has a text. -/
def headerResponse (s : String) : Response := ⟨⟨200, by decide⟩, [("x", s)], "", 0⟩

theorem value_headerResponse (s : String) :
    (Path.header "x").value (headerResponse s) = .ok (.string s) := by
  have hfind : (headerResponse s).headers.find? "x" = some s := by
    simp [headerResponse, Headers.find?, Ascii.sameName_refl]
  rw [Path.value, hfind]

/-- **Words behind `contains`**: all lines `path contains word` pass for exactly the texts that hold
the word, if and only if the word is no number or the number is spelled as it is written. -/
theorem contains_word_iff (hword : IsBareWord word) :
    (∀ (r : Response) (path : List Char) (p : Path) (s : String),
      (∀ c ∈ path, isBlank c = false) → Path.ofWord path = .ok p →
        p.value r = .ok (.string s) →
          ∃ result, results r [String.ofList (containsLine path word)] = [result] ∧
            (result.passed = true ↔ word <:+: s.toList)) ↔
      IsOwnText word := by
  rw [← soughtFor_eq_self_iff]
  constructor
  · intro hfaithful
    -- every text is the text of a header, so the two are found in the same texts
    refine eq_of_forall_infix_iff fun u => ?_
    have hblank : ∀ c ∈ "headers.x".toList, isBlank c = false :=
      Text.isBlank_eq_false_of_any (by decide)
    have hpath : Path.ofWord "headers.x".toList = .ok (.header "x") := rfl
    have hvalue := value_headerResponse (String.ofList u)
    obtain ⟨result, hresult, hiff⟩ := hfaithful _ _ _ _ hblank hpath hvalue
    obtain ⟨result', hresult', hiff'⟩ := results_containsLine hword hblank hpath hvalue
    obtain rfl : result = result' := List.singleton_inj.mp (hresult.symm.trans hresult')
    rw [String.toList_ofList] at hiff hiff'
    exact hiff'.symm.trans hiff
  · intro hown r path p s hblank hpath hvalue
    have hline := results_containsLine hword hblank hpath hvalue
    rw [hown] at hline
    exact hline

/-- A whole number in its own spelling is looked for as it is written. -/
theorem contains_word_iff_code :
    let word := "200".toList
    IsBareWord word ∧ IsOwnText word ∧
      ∃ result, results (headerResponse "code 200")
          [String.ofList (containsLine "headers.x".toList word)] = [result] ∧
        (result.passed = true ↔ word <:+: "code 200".toList) := by
  intro word
  have hword : IsBareWord word :=
    ⟨by decide, Text.isBlank_eq_false_of_any (by decide), by decide⟩
  have hown : IsOwnText word := by
    have hall : (Binary64.ofText? word).all
        (fun x => decide ((NumberStyle.plain.render x).toList = word)) = true := by
      decide +kernel
    intro x hx
    rw [hx] at hall
    exact of_decide_eq_true hall
  have hblank : ∀ c ∈ "headers.x".toList, isBlank c = false :=
    Text.isBlank_eq_false_of_any (by decide)
  have hpath : Path.ofWord "headers.x".toList = .ok (.header "x") := rfl
  exact ⟨hword, hown, (contains_word_iff hword).mpr hown _ _ _ _ hblank hpath
    (value_headerResponse "code 200")⟩

/-- The word `1.10` is found in a text that does not hold it, and `1e3` is not found in a text that
does: they are looked for as `1.1` and `1000`. -/
theorem contains_number_spellings :
    (IsBareWord "1.10".toList ∧ ¬ "1.10".toList <:+: "1.1".toList ∧
      (results (headerResponse "1.1") ["headers.x contains 1.10"]).map (·.passed) = [true]) ∧
    (IsBareWord "1e3".toList ∧ "1e3".toList <:+: "1e3".toList ∧
      (results (headerResponse "1e3") ["headers.x contains 1e3"]).map (·.passed) = [false]) := by
  have hfraction : IsBareWord "1.10".toList :=
    ⟨by decide, Text.isBlank_eq_false_of_any (by decide), by decide⟩
  have hexponent : IsBareWord "1e3".toList :=
    ⟨by decide, Text.isBlank_eq_false_of_any (by decide), by decide⟩
  have hnot : ¬ "1.10".toList <:+: "1.1".toList := fun h => absurd h.length_le (by decide)
  refine ⟨⟨hfraction, hnot, ?_⟩, hexponent, List.infix_rfl, ?_⟩
  · decide +kernel
  · decide +kernel

end HttpSuite.Assertion
