/-
HttpSuite/Proofs/Assertion/Notation.lean

The written form of assertions.  A line is read by its first word and by what is behind it:

    path exists
    path operator value

The first word is the text of the path that it writes (`Path.text_of_ofWord`), and an operator is
found again where a blank stands behind its sign (`operator?_text`).  A value is written as its
display text, and that text is read as the value unless the value is a number: in quotes a string is
read as it is, whatever quotes or words it holds itself (`Value.ofTrimmed_display`).

Main result: the text that a result shows of an assertion that was read from a line, and that does
not compare with a number, is read as the same assertion (`ofLine_raw`).
-/
import HttpSuite.Assertion.Evaluate
import HttpSuite.Proofs.Text.Lines

namespace HttpSuite.Assertion

open Text (trim trimStart isBlank)

/-! ### Paths -/

/-- The text of a path is the word that it was read from. -/
theorem Path.text_of_ofWord {word : List Char} {p : Path} (h : Path.ofWord word = .ok p) :
    p.text.toList = word := by
  have hfixed : ∀ {s : String}, String.ofList word = s → s.toList = word := by
    rintro s rfl
    exact String.toList_ofList
  revert h
  fun_cases Path.ofWord word with
  | case1 text hword =>
      rintro ⟨⟩
      exact hfixed hword
  | case2 text _ hword =>
      rintro ⟨⟩
      exact hfixed hword
  | case3 text _ _ hword =>
      rintro ⟨⟩
      exact hfixed hword
  | case4 text _ _ _ c rest hrest =>
      rintro ⟨⟩
      have hname : (String.ofList (c :: rest)).toList = c :: rest := String.toList_ofList
      rw [Path.text, String.toList_append, hname]
      exact (Text.stripStart?_eq_some.mp hrest).symm
  | case5 text _ _ _ c rest hrest =>
      rintro ⟨⟩
      have hname : (String.ofList (c :: rest)).toList = c :: rest := String.toList_ofList
      have hne : String.ofList (c :: rest) ≠ "" := by simp
      rw [Path.text, if_neg hne, String.toList_append, hname]
      exact (Text.stripStart?_eq_some.mp hrest).symm
  | case6 => simp

/-! ### Values -/

namespace Value

/-- What stands between two quotes of one kind is in quotes. -/
theorem isQuoted_of_quotes (quote : Char) (s : List Char) :
    isQuoted quote (quote :: (s ++ [quote])) = true := by
  have hlast : (quote :: (s ++ [quote])).getLast? = some quote := by
    rw [← List.cons_append]
    exact List.getLast?_concat
  simp [isQuoted, hlast]

theorem toList_display_string (s : String) :
    (string s).display.toList = '"' :: (s.toList ++ ['"']) := by
  simp [display]

/-- The display text of a value that is no number is read as this value. -/
theorem ofTrimmed_display {v : Value} (h : ∀ x, v ≠ number x) :
    ofTrimmed v.display.toList = v := by
  cases v with
  | number x => exact absurd rfl (h x)
  | string s =>
      have hword : ∀ w : String, w.toList.head? ≠ some '"' →
          String.ofList ('"' :: (s.toList ++ ['"'])) ≠ w := by
        rintro w hw rfl
        rw [String.toList_ofList] at hw
        exact hw rfl
      rw [toList_display_string, ofTrimmed, if_neg (hword "null" (by decide)),
        if_neg (hword "true" (by decide)), if_neg (hword "false" (by decide)),
        isQuoted_of_quotes, Bool.true_or, if_pos rfl, List.tail_cons, List.dropLast_concat,
        String.ofList_toList]
  | bool b => cases b <;> rfl
  | null => rfl

/-- A string that is read from a text is made of characters of it. -/
theorem mem_of_ofTrimmed {text : List Char} {s : String} (h : ofTrimmed text = string s) {c : Char}
    (hc : c ∈ s.toList) : c ∈ text := by
  revert h
  fun_cases ofTrimmed text with
  | case4 =>
      rintro ⟨⟩
      rw [String.toList_ofList] at hc
      exact List.mem_of_mem_tail ((List.dropLast_sublist _).subset hc)
  | case6 =>
      intro h
      rwa [← string.inj h, String.toList_ofList] at hc
  -- the other readings are no strings
  | _ => simp

end Value

/-! ### Lines -/

namespace Expression

/-- A value as it stands in a line: something without blanks at its ends, on one line. -/
structure IsOperand (text : List Char) : Prop where
  ne_nil : text ≠ []
  trimmed : trim text = text
  oneLine : '\n' ∉ text

/-- The display text of what a line writes can stand in a line again. -/
theorem isOperand_display {text : List Char} (h : '\n' ∉ text)
    (hv : ∀ x, Value.ofTrimmed text ≠ .number x) :
    IsOperand (Value.ofTrimmed text).display.toList := by
  cases hread : Value.ofTrimmed text with
  | number x => exact absurd hread (hv x)
  | string s =>
      rw [Value.toList_display_string]
      refine ⟨List.cons_ne_nil _ _, ?_, ?_⟩
      · rw [Text.trim_cons_of_not_blank (by decide), Text.trimEnd_append_of_not_blank (by decide)]
      · have hs : '\n' ∉ s.toList := fun hmem => h (Value.mem_of_ofTrimmed hread hmem)
        simp [hs]
  | bool b => cases b <;> exact ⟨by decide, by decide, by decide⟩
  | null => exact ⟨by decide, by decide, by decide⟩

/-- **Operators**: the sign of an operator is found in front of a value, also where the sign of
another operator starts like it. -/
theorem operator?_text (op : Operator) {text : List Char} (h : IsOperand text) :
    operator? (op.text.toList ++ ' ' :: text) = some (op, text) := by
  have hstart : trimStart (' ' :: text) = text := Text.trimStart_eq_self h.trimmed
  have hne : text ≠ [] := h.ne_nil
  cases op <;>
    simp only [operator?, Operator.all, List.findSome?_cons] <;>
    simp [Operator.text, Text.stripStart?, hstart, hne, h.oneLine]

/-- A line is read by its first word and by what stands behind the blank. -/
theorem ofLine_append {word rest : List Char} (hne : word ≠ [])
    (hword : ∀ c ∈ word, isBlank c = false) (hrest : trim rest = rest) (hrest' : rest ≠ []) :
    ofLine (word ++ ' ' :: rest) =
      if rest = "exists".toList then (Path.ofWord word).map .exists
      else
        match operator? rest with
        | none => .error (.invalidSyntax ("No valid operator found in assertion: " ++
            String.ofList (word ++ ' ' :: rest)))
        | some (op, value) =>
            (Path.ofWord word).map fun left => .compare left op (Value.ofTrimmed value) := by
  have hblank : trim (word ++ ' ' :: rest) = word ++ ' ' :: rest := by
    obtain ⟨c, tail, rfl⟩ := List.exists_cons_of_ne_nil hne
    exact Text.trim_append_cons rfl (hword c List.mem_cons_self) hrest hrest'
  have hchars : ∀ c ∈ word, (!isBlank c) = true := fun c hc => by simp [hword c hc]
  have hfirst : Text.firstWord (word ++ ' ' :: rest) = (word, ' ' :: rest) := by
    rw [Text.firstWord, List.takeWhile_append_of_pos hchars, List.dropWhile_append_of_pos hchars]
    simp [isBlank]
  have hstart : trimStart (' ' :: rest) = rest := Text.trimStart_eq_self hrest
  have hempty : word.isEmpty = false := by simpa using hne
  simp only [ofLine, hblank, hfirst, hstart, hempty, Bool.not_false, Bool.true_and,
    decide_eq_true_eq]
  rfl

/-- A path and the word behind it are read as the assertion that something is there. -/
theorem ofLine_exists {word : List Char} (hne : word ≠ []) (hword : ∀ c ∈ word, isBlank c = false) :
    ofLine (word ++ " exists".toList) = (Path.ofWord word).map .exists := by
  have htrim : trim "exists".toList = "exists".toList := by decide
  have hline := ofLine_append hne hword htrim (by decide)
  rw [if_pos rfl] at hline
  exact hline

/-- A path, a sign and a value are read as a comparison. -/
theorem ofLine_compare {word text : List Char} (hne : word ≠ [])
    (hword : ∀ c ∈ word, isBlank c = false) (op : Operator) (htext : IsOperand text) :
    ofLine (word ++ ' ' :: (op.text.toList ++ ' ' :: text)) =
      (Path.ofWord word).map fun left => .compare left op (Value.ofTrimmed text) := by
  have hsign : ∃ a, op.text.toList.head? = some a ∧ isBlank a = false := by
    cases op <;> exact ⟨_, rfl, by decide⟩
  obtain ⟨a, hhead, ha⟩ := hsign
  have hrest : trim (op.text.toList ++ ' ' :: text) = op.text.toList ++ ' ' :: text :=
    Text.trim_append_cons hhead ha htext.trimmed htext.ne_nil
  have hexists : op.text.toList ++ ' ' :: text ≠ "exists".toList := by
    intro heq
    have hblank : ' ' ∈ "exists".toList := by
      rw [← heq]
      exact List.mem_append_right _ List.mem_cons_self
    exact absurd hblank (by decide)
  rw [ofLine_append hne hword hrest (by simp), if_neg hexists, operator?_text op htext]

/-- What a reading function makes of what is read was made of something that was read. -/
theorem exists_of_map_eq_ok {α β : Type} {f : α → β} {read : Except Error α} {b : β}
    (h : read.map f = .ok b) : ∃ a, read = .ok a ∧ f a = b := by
  cases read with
  | error cause => simp [Except.map] at h
  | ok a => exact ⟨a, rfl, Except.ok.inj h⟩

/-- The value behind an operator stands on one line. -/
theorem newline_not_mem_of_operator? {s text : List Char} {op : Operator}
    (h : operator? s = some (op, text)) : '\n' ∉ text := by
  obtain ⟨o, -, ho⟩ := List.exists_of_findSome?_eq_some h
  split at ho
  · simp at ho
  · simp only [Option.ite_none_right_eq_some] at ho
    obtain ⟨hfits, hcut⟩ := ho
    obtain ⟨-, rfl⟩ := Prod.mk.inj (Option.some.inj hcut)
    rw [Bool.and_eq_true] at hfits
    simpa using hfits.2

/-- A line that is read is a path and the word behind it, or a path, an operator and a value. -/
theorem of_ofLine {line : List Char} {e : Expression} (h : ofLine line = .ok e) :
    ∃ word p, word ≠ [] ∧ (∀ c ∈ word, isBlank c = false) ∧ Path.ofWord word = .ok p ∧
      (e = .exists p ∨ ∃ op text, '\n' ∉ text ∧ e = .compare p op (Value.ofTrimmed text)) := by
  have hchars : ∀ {s word rest : List Char}, Text.firstWord s = (word, rest) →
      ∀ c ∈ word, isBlank c = false := by
    rintro s word rest hfirst c hc
    obtain rfl : s.takeWhile (!isBlank ·) = word := congrArg Prod.fst hfirst
    simpa using List.all_eq_true.mp List.all_takeWhile c hc
  revert h
  fun_cases ofLine line with
  | case1 s word gap hfirst rest hexists =>
      intro h
      obtain ⟨p, hp, rfl⟩ := exists_of_map_eq_ok h
      have hne : word ≠ [] := by
        rintro rfl
        simp at hexists
      exact ⟨word, p, hne, hchars hfirst, hp, .inl rfl⟩
  | case2 => simp
  | case3 s word gap hfirst rest _ op text hoperator =>
      intro h
      obtain ⟨p, hp, rfl⟩ := exists_of_map_eq_ok h
      split at hoperator
      · simp at hoperator
      · rename_i hne
        have hfeed : '\n' ∉ text := newline_not_mem_of_operator? hoperator
        exact ⟨word, p, by simpa using hne, hchars hfirst, hp, .inr ⟨op, text, hfeed, rfl⟩⟩

/-- The text of an assertion is what its result shows. -/
theorem raw_evaluate (r : Response) (e : Expression) : (e.evaluate r).raw = e.text := by
  cases e with
  | «exists» path =>
      rw [evaluate]
      split <;> rfl
  | compare left op right =>
      rw [evaluate, compareResult]
      split
      · rfl
      · split <;> rfl

/-- **Reading again**: an assertion that is read from a line and does not compare with a number is
read again from the text that its results show. -/
theorem ofLine_raw {line : List Char} {e : Expression} (h : ofLine line = .ok e)
    (hnumber : ∀ left op x, e ≠ .compare left op (.number x)) (r : Response) :
    (e.evaluate r).raw = e.text ∧ ofLine (e.evaluate r).raw.toList = .ok e := by
  refine ⟨raw_evaluate r e, ?_⟩
  rw [raw_evaluate]
  obtain ⟨word, p, hne, hword, hp, rfl | ⟨op, text, hfeed, rfl⟩⟩ := of_ofLine h
  · have htext : (Expression.exists p).text.toList = word ++ " exists".toList := by
      rw [Expression.text, String.toList_append, Path.text_of_ofWord hp]
    rw [htext, ofLine_exists hne hword, hp]
    rfl
  · have hvalue : ∀ x, Value.ofTrimmed text ≠ .number x := fun x hx =>
      hnumber p op x (congrArg (Expression.compare p op) hx)
    have htext : (Expression.compare p op (Value.ofTrimmed text)).text.toList =
        word ++ ' ' :: (op.text.toList ++ ' ' :: (Value.ofTrimmed text).display.toList) := by
      simp [Expression.text, Path.text_of_ofWord hp]
    rw [htext, ofLine_compare hne hword op (isOperand_display hfeed hvalue),
      Value.ofTrimmed_display hvalue, hp]
    rfl

/-- Quotes, an operator and blanks inside of a string in single quotes. -/
theorem ofLine_raw_quotes :
    let line := "  headers.x   >=  ' say \"a == b\" exists'".toList
    let e := Expression.compare (.header "x") .greaterOrEqual (.string " say \"a == b\" exists")
    let r : Response := ⟨⟨200, by decide⟩, [], "", 0⟩
    (ofLine line = .ok e ∧ ∀ left op x, e ≠ .compare left op (.number x)) ∧
      (e.evaluate r).raw = "headers.x >= \" say \"a == b\" exists\"" ∧
      ofLine (e.evaluate r).raw.toList = .ok e := by
  intro line e r
  have hread : ofLine line = .ok e := by rfl
  have hnumber : ∀ left op x, e ≠ .compare left op (.number x) := by
    intro left op x heq
    injection heq with _ _ hvalue
    exact Value.noConfusion hvalue
  obtain ⟨hraw, hagain⟩ := ofLine_raw hread hnumber r
  exact ⟨⟨hread, hnumber⟩, hraw.trans (by decide), hagain⟩

end Expression

end HttpSuite.Assertion
