/-
HttpSuite/Proofs/Variables/Arguments.lean

The arguments of a generator.  Where no quotes are in play, an argument that has begun goes on up to
the next blank, as a word does, and blanks in front of it begin none (`split_eq_words`).

Quotes keep what is between them together, so that an argument can be written in several ways:

    bare      as a word without quotes
    quoted    as any text between two quotes that are not in it, the empty text too
    mixed     as two such parts, one right behind the other

Whatever has begun, a spelling adds its argument to it and leaves no quote open (`Spells.scan`), and
the blank behind it ends what has begun (`scan_some_of_boundary`).

Main result: arguments that are spelled with blanks between them are read back
(`split_eq_of_writes`).
-/
import HttpSuite.Variables.Arguments
import HttpSuite.Proofs.Text.Lines

namespace HttpSuite

namespace Arguments

theorem isQuote_of_blank {b : Char} (hb : Text.isBlank b = true) : isQuote b = false := by
  rw [← Bool.not_eq_true, isQuote, Bool.or_eq_true, beq_iff_eq, beq_iff_eq]
  rintro (rfl | rfl)
  · cases hb
  · cases hb

/-- A scan without quotes ends what has begun with the word that goes on, and then gives the words
of the rest. -/
theorem scan_eq_words {s : List Char} (h : ∀ c ∈ s, isQuote c = false) :
    scan none none s = Text.words s ∧
      ∀ begun ≠ [], (∀ c ∈ begun, Text.isBlank c = false) →
        scan none (some begun) s = Text.words (begun.reverse ++ s) := by
  induction s with
  | nil =>
      refine ⟨rfl, ?_⟩
      intro begun hne hplain
      rw [List.append_nil, Text.words_eq_singleton (by simpa using hne) (by simpa using hplain)]
      rfl
  | cons c s ih =>
      obtain ⟨hquote, hs⟩ := List.forall_mem_cons.mp h
      obtain ⟨hnone, hsome⟩ := ih hs
      cases hc : Text.isBlank c with
      | true =>
          -- a blank ends what has begun
          refine ⟨?_, ?_⟩
          · simp [scan, hquote, hc, hnone, Text.words_cons_of_blank hc]
          · intro begun hne hplain
            rw [Text.words_append_cons (by simpa using hne) (by simpa using hplain) hc]
            simp [scan, hquote, hc, hnone]
      | false =>
          refine ⟨?_, ?_⟩
          · have hbegun := hsome [c] (by simp) (by simpa using hc)
            simpa [scan, hquote, hc] using hbegun
          · intro begun hne hplain
            have hbegun := hsome (c :: begun) (by simp) (List.forall_mem_cons.mpr ⟨hc, hplain⟩)
            simpa [scan, hquote, hc] using hbegun

/-- **Without quotes, arguments are words.** -/
theorem split_eq_words {s : List Char} (h : ∀ c ∈ s, isQuote c = false) :
    split s = Text.words s :=
  (scan_eq_words h).1

/-! ### Spelled arguments -/

/-- `Spells word arg`: the word is a way to write the argument. -/
inductive Spells : List Char → List Char → Prop
  | bare {arg} : arg ≠ [] → (∀ c ∈ arg, Text.isBlank c = false) →
      (∀ c ∈ arg, isQuote c = false) → Spells arg arg
  | quoted {q arg} : isQuote q = true → q ∉ arg → Spells (q :: (arg ++ [q])) arg
  | mixed {word arg word' arg'} : Spells word arg → Spells word' arg' →
      Spells (word ++ word') (arg ++ arg')

/-- `Writes s args`: the text spells the arguments, with blanks between each two of them and perhaps
at the ends. -/
inductive Writes : List Char → List (List Char) → Prop
  | nil {gap} : Text.isBlankText gap = true → Writes gap []
  | cons {gap word arg rest args} : Text.isBlankText gap = true → Spells word arg →
      Writes rest args → rest.head?.all Text.isBlank = true →
      Writes (gap ++ word ++ rest) (arg :: args)

/-- Up to the quote that closes it, a quoted text is taken as it stands. -/
theorem scan_quoted {q : Char} {arg : List Char} (h : q ∉ arg) (begun rest : List Char) :
    scan (some q) (some begun) (arg ++ q :: rest) =
      scan none (some (arg.reverse ++ begun)) rest := by
  induction arg generalizing begun with
  | nil => simp [scan]
  | cons c arg ih =>
      obtain ⟨hc, harg⟩ : q ≠ c ∧ q ∉ arg := by simpa using h
      have hrest := ih harg (c :: begun)
      simpa [scan, Ne.symm hc] using hrest

/-- A plain text goes on with what has begun. -/
theorem scan_plain {arg : List Char} (noBlank : ∀ c ∈ arg, Text.isBlank c = false)
    (noQuote : ∀ c ∈ arg, isQuote c = false) (begun rest : List Char) :
    scan none (some begun) (arg ++ rest) = scan none (some (arg.reverse ++ begun)) rest := by
  induction arg generalizing begun with
  | nil => rfl
  | cons c arg ih =>
      obtain ⟨hblank, hblanks⟩ := List.forall_mem_cons.mp noBlank
      obtain ⟨hquote, hquotes⟩ := List.forall_mem_cons.mp noQuote
      have hrest := ih hblanks hquotes (c :: begun)
      simpa [scan, hblank, hquote] using hrest

/-- **One spelling** adds its argument to what has begun, or begins it. -/
theorem Spells.scan {word arg : List Char} (h : Spells word arg) (current : Option (List Char))
    (rest : List Char) :
    scan none current (word ++ rest) = scan none (some (arg.reverse ++ current.getD [])) rest := by
  induction h generalizing current rest with
  | @bare arg hne noBlank noQuote =>
      obtain ⟨c, arg, rfl⟩ := List.exists_cons_of_ne_nil hne
      obtain ⟨hblank, hblanks⟩ := List.forall_mem_cons.mp noBlank
      obtain ⟨hquote, hquotes⟩ := List.forall_mem_cons.mp noQuote
      have hrest := scan_plain hblanks hquotes (c :: current.getD []) rest
      simpa [Arguments.scan, hblank, hquote] using hrest
  | @quoted q arg hquote hfree =>
      have hrest := scan_quoted hfree (current.getD []) rest
      simpa [Arguments.scan, hquote] using hrest
  | mixed _ _ ih ih' =>
      rw [List.append_assoc, ih, ih', Option.getD_some, List.reverse_append, List.append_assoc]

/-- Blanks begin nothing. -/
theorem scan_blank_append {gap : List Char} (h : Text.isBlankText gap = true) (rest : List Char) :
    scan none none (gap ++ rest) = scan none none rest := by
  induction gap with
  | nil => rfl
  | cons b gap ih =>
      obtain ⟨hb, hgap⟩ : Text.isBlank b = true ∧ Text.isBlankText gap = true := by
        simpa [Text.isBlankText] using h
      simpa [scan, isQuote_of_blank hb, hb] using ih hgap

/-- What has begun ends at a blank, or where the text ends. -/
theorem scan_some_of_boundary {rest : List Char} (h : rest.head?.all Text.isBlank = true)
    (begun : List Char) : scan none (some begun) rest = begun.reverse :: scan none none rest := by
  cases rest with
  | nil => rfl
  | cons b rest =>
      have hb : Text.isBlank b = true := h
      simp [scan, isQuote_of_blank hb, hb]

/-- **Reading back**: arguments that are spelled, bare or between quotes, with blanks between them
are the arguments of the text. -/
theorem split_eq_of_writes {s : List Char} {args : List (List Char)} (h : Writes s args) :
    split s = args := by
  induction h with
  | @nil gap hgap =>
      have hscan := scan_blank_append hgap []
      rwa [List.append_nil] at hscan
  | @cons gap word arg rest args hgap hword _ hboundary ih =>
      have hrest : scan none none rest = args := ih
      rw [split, List.append_assoc, scan_blank_append hgap, hword.scan,
        scan_some_of_boundary hboundary, hrest]
      simp

/-- A bare argument, one with blanks and the other quote in it, and an empty one at the end. -/
theorem split_eq_of_writes_three :
    Writes " datetime \"YYYY 'MM'\"\t''".toList ["datetime".toList, "YYYY 'MM'".toList, []] ∧
      split " datetime \"YYYY 'MM'\"\t''".toList =
        ["datetime".toList, "YYYY 'MM'".toList, []] := by
  have hempty : Spells "''".toList [] := .quoted rfl List.not_mem_nil
  have hquoted : Spells "\"YYYY 'MM'\"".toList "YYYY 'MM'".toList :=
    @Spells.quoted '"' "YYYY 'MM'".toList rfl (by decide)
  have hbare : Spells "datetime".toList "datetime".toList :=
    .bare (by decide) (Text.isBlank_eq_false_of_any rfl) (Text.eq_false_of_any rfl)
  have hlast : Writes "\t''".toList [[]] := @Writes.cons ['\t'] _ _ [] _ rfl hempty (.nil rfl) rfl
  have hback : Writes " \"YYYY 'MM'\"\t''".toList ["YYYY 'MM'".toList, []] :=
    @Writes.cons [' '] _ _ _ _ rfl hquoted hlast rfl
  have h : Writes " datetime \"YYYY 'MM'\"\t''".toList
      ["datetime".toList, "YYYY 'MM'".toList, []] :=
    @Writes.cons [' '] _ _ _ _ rfl hbare hback rfl
  exact ⟨h, split_eq_of_writes h⟩

end Arguments

end HttpSuite
