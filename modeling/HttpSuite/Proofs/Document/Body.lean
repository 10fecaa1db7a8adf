/-
HttpSuite/Proofs/Document/Body.lean

The lines of a body, read as a text or as a reference to a file.  The lines from the first to the
last one that is not blank are joined, and the joined text is compared with the form of a reference:
a `<`, blanks and a path.  To this form the end of a line is a blank like any other, so that nothing
but the words of the lines counts:

    words (unlines ls) = ls.flatMap words
    bodyOf lines = file path   ↔   lines.flatMap words = [<, path]

The two words of a reference stand on one line, or the `<` stands on a line of its own and the path
on the next one that is not blank; then two lines of text are taken for a reference.  In all other
cases the body is the text of the lines, in which nothing is changed.

Main result: the reading of the lines is the one that a reference in a single line asks for, exactly
when they are not such a pair (`classified_iff_not_parted`).
-/
import HttpSuite.Proofs.Document.WellFormed

namespace HttpSuite

open Text (isBlank isBlankText trim trimStart trimEnd words unlines)

/-! ### Words -/

namespace Text

variable {s t w : List Char} {c : Char}

theorem words_trimStart (s : List Char) : words (trimStart s) = words s := by
  induction s with
  | nil => rfl
  | cons c s ih =>
      cases hc : isBlank c with
      | true =>
          rw [words_cons_of_blank hc, ← ih, trimStart, List.dropWhile_cons_of_pos hc]
          rfl
      | false => rw [trimStart_cons_of_not_blank hc]

theorem words_trimEnd (s : List Char) : words (trimEnd s) = words s := by
  induction s using List.reverseRecOn with
  | nil => rfl
  | append_singleton s c ih =>
      cases hc : isBlank c with
      | true =>
          rw [trimEnd_concat_of_blank hc, ih, words_append_cons_of_blank hc]
          simp [words]
      | false => rw [trimEnd_append_of_not_blank hc]

theorem words_trim (s : List Char) : words (trim s) = words s := by
  rw [trim, words_trimEnd, words_trimStart]

/-- A text has no words only if it is blank. -/
theorem words_eq_nil_iff : words s = [] ↔ isBlankText s = true := by
  constructor
  · intro h
    rw [← trim_eq_nil_iff]
    rcases htrim : trim s with - | ⟨c, t⟩
    · rfl
    · -- the first word of what trimming leaves is a word of the text
      have hc : isBlank c = false := (trim_ends s).1 c (by rw [htrim]; rfl)
      obtain ⟨rest, hwords⟩ := words_cons hc t
      rw [← htrim, words_trim, h] at hwords
      cases hwords
  · intro h
    simpa [words] using words_blank_append h []

/-- The first word of a trimmed text, and what stands behind it. -/
theorem eq_append_of_words_eq_cons (htrim : trim s = s) {ws : List (List Char)}
    (h : words s = w :: ws) :
    w ≠ [] ∧ (∀ c ∈ w, isBlank c = false) ∧
      (s = w ∧ ws = [] ∨ ∃ b rest, isBlank b = true ∧ s = w ++ b :: rest ∧ words rest = ws) := by
  have hs : s ≠ [] := by
    rintro rfl
    simp [words] at h
  obtain ⟨c, t, rfl⟩ := List.exists_cons_of_ne_nil hs
  have hc : isBlank c = false := (trim_eq_self_iff.mp htrim).1 c rfl
  obtain ⟨hne, hword, hall | ⟨b, rest, hb, hsplit⟩⟩ := takeWhile_not_blank_spec hc t
  · rw [hall] at hne hword
    rw [words_eq_singleton hne hword] at h
    obtain ⟨rfl, rfl⟩ := List.cons.inj h
    exact ⟨hne, hword, .inl ⟨rfl, rfl⟩⟩
  · have hwords := words_append_cons hne hword hb rest
    rw [← hsplit, h] at hwords
    obtain ⟨rfl, rfl⟩ := List.cons.inj hwords
    exact ⟨hne, hword, .inr ⟨b, rest, hb, hsplit, rfl⟩⟩

/-- A text is one word exactly when nothing but this word is left of it by trimming. -/
theorem words_eq_singleton_iff : words s = [w] ↔
    trim s = w ∧ w ≠ [] ∧ ∀ c ∈ w, isBlank c = false := by
  constructor
  · intro h
    rw [← words_trim] at h
    obtain ⟨hne, hword, ⟨hall, -⟩ | ⟨b, rest, hb, hsplit, hrest⟩⟩ :=
      eq_append_of_words_eq_cons (trim_trim s) h
    · exact ⟨hall, hne, hword⟩
    · -- a blank behind the word would be the last character, or more blanks are
      exfalso
      have hblank : isBlankText (b :: rest) = true := by
        have := words_eq_nil_iff.mp hrest
        simpa [isBlankText, hb] using this
      obtain ⟨last, hlast⟩ : ∃ last, (b :: rest).getLast? = some last :=
        ⟨_, List.getLast?_eq_some_getLast (by simp)⟩
      have hend := (trim_ends s).2 last (by rw [hsplit, List.getLast?_append, hlast]; rfl)
      have := List.all_eq_true.mp hblank last (List.mem_of_getLast? hlast)
      rw [hend] at this
      cases this
  · rintro ⟨rfl, hne, hword⟩
    rw [← words_trim, words_eq_singleton hne hword]

/-- A text is two words exactly when it is one, blanks, and the other one. -/
theorem words_eq_pair_iff {v : List Char} (hv : v ≠ []) (hvword : ∀ c ∈ v, isBlank c = false) :
    words s = [v, w] ↔ (w ≠ [] ∧ ∀ c ∈ w, isBlank c = false) ∧
      ∃ gap, gap ≠ [] ∧ isBlankText gap = true ∧ trim s = v ++ (gap ++ w) := by
  constructor
  · intro h
    rw [← words_trim] at h
    obtain ⟨-, -, ⟨-, hnil⟩ | ⟨b, rest, hb, hsplit, hrest⟩⟩ :=
      eq_append_of_words_eq_cons (trim_trim s) h
    · cases hnil
    · rw [← words_trimStart] at hrest
      obtain ⟨hrest, hne, hword⟩ := words_eq_singleton_iff.mp hrest
      -- the last character of the text is that of the second word
      have hstart : trim (trimStart rest) = trimStart rest := by
        refine trim_eq_self (fun c hc => ?_) fun c hc => (trim_ends s).2 c ?_
        · obtain ⟨tail, htail⟩ := List.head?_eq_some_iff.mp hc
          exact head_trimStart htail
        · obtain ⟨blanks, hblanks⟩ : trimStart rest <:+ rest := List.dropWhile_suffix isBlank
          rw [hsplit, ← hblanks, ← List.cons_append, ← List.append_assoc, List.getLast?_append, hc]
          rfl
      rw [hstart] at hrest
      refine ⟨⟨hne, hword⟩, b :: rest.takeWhile isBlank, by simp, ?_, ?_⟩
      · simp [isBlankText, hb]
      · rw [hsplit, ← hrest, trimStart, List.cons_append, List.takeWhile_append_dropWhile]
  · rintro ⟨⟨hne, hword⟩, gap, hgap, hblank, htrim⟩
    obtain ⟨b, gap, rfl⟩ := List.exists_cons_of_ne_nil hgap
    obtain ⟨hb, hgap⟩ : isBlank b = true ∧ isBlankText gap = true := by
      simpa [isBlankText] using hblank
    rw [← words_trim, htrim, List.cons_append, words_append_cons hv hvword hb,
      words_blank_append hgap, words_eq_singleton hne hword]

/-- The words of joined lines are those of each of them. -/
theorem words_unlines (ls : List (List Char)) : words (unlines ls) = ls.flatMap words := by
  induction ls with
  | nil => rfl
  | cons l ls ih =>
      by_cases hls : ls = []
      · subst hls
        simp [unlines]
      · rw [unlines_cons_of_ne_nil l hls, words_append_cons_of_blank (by decide), ih,
          List.flatMap_cons]

end Text

/-! ### References -/

/-- A line that refers to the file of a body: a `<`, blanks and a path that is none of a script. -/
def Refers (line : List Char) (path : String) : Prop :=
  (RequestBody.file path).WellFormed ∧
    ∃ gap, gap ≠ [] ∧ isBlankText gap = true ∧ trim line = '<' :: (gap ++ path.toList)

theorem bodyFile?_eq_some_iff {text : List Char} {path : String} :
    ScriptScan.bodyFile? text = some path ↔ Refers text path := by
  constructor
  · intro h
    refine ⟨ScriptScan.wellFormed_of_bodyFile? h, ?_⟩
    rw [ScriptScan.bodyFile?] at h
    split at h
    · rename_i path' hreference
      obtain ⟨-, sign, gap, hsign, hgap, hblank, htrim⟩ :=
        ScriptScan.fileReference?_eq_some_iff.mp hreference
      -- the sign in front of a script that runs before the request
      obtain rfl : sign = '<' := by
        unfold ScriptScan.phaseOf? at hsign
        split at hsign
        · assumption
        · split at hsign
          · cases hsign
          · cases hsign
      split at h
      · cases h
      · obtain rfl : String.ofList path' = path := by simpa using h
        exact ⟨gap, hgap, hblank, by rwa [String.toList_ofList]⟩
    · cases h
  · rintro ⟨⟨hpath, htail, hmark⟩, gap, hgap, hblank, htrim⟩
    have hreference : ScriptScan.fileReference? (trim text) = some (.preRequest, path.toList) :=
      ScriptScan.fileReference?_eq_some_iff.mpr
        ⟨⟨by simpa using hpath.ne_empty, hpath.noBlank⟩, '<', gap, rfl, hgap, hblank, htrim⟩
    rw [ScriptScan.bodyFile?, hreference]
    simp only
    rw [if_neg, String.ofList_toList]
    simp only [Bool.or_eq_true, not_or, Text.endsWith_iff, Text.startsWith_iff]
    exact ⟨htail, hmark⟩

/-- Whether a text refers to a file is told by its words. -/
theorem refers_iff_words {text : List Char} {path : String} : Refers text path ↔
    (RequestBody.file path).WellFormed ∧ words text = [['<'], path.toList] := by
  refine and_congr_right fun hpath => ?_
  rw [Text.words_eq_pair_iff (by simp) (Text.isBlank_eq_false_of_any rfl)]
  constructor
  · exact fun hgap => ⟨⟨by simpa using hpath.1.ne_empty, hpath.1.noBlank⟩, hgap⟩
  · exact And.right

namespace RequestZone

variable {lines core : List (List Char)} {path : String}

/-! ### The lines between the blank ones -/

/-- `Core lines core`: the lines from the first to the last one that is not blank. -/
structure Core (lines core : List (List Char)) : Prop where
  between : ∃ front back, lines = front ++ (core ++ back) ∧ (∀ l ∈ front, isBlankText l = true) ∧
    ∀ l ∈ back, isBlankText l = true
  first : ∃ l ∈ core.head?, isBlankText l = false
  last : ∃ l ∈ core.getLast?, isBlankText l = false

/-- Blank lines have no words. -/
theorem flatMap_words_eq_nil (h : ∀ l ∈ lines, isBlankText l = true) : lines.flatMap words = [] :=
  List.flatMap_eq_nil_iff.mpr fun l hl => Text.words_eq_nil_iff.mpr (h l hl)

theorem Core.flatMap_words (h : Core lines core) : core.flatMap words = lines.flatMap words := by
  obtain ⟨front, back, rfl, hfront, hback⟩ := h.between
  rw [List.flatMap_append, List.flatMap_append, flatMap_words_eq_nil hfront,
    flatMap_words_eq_nil hback, List.nil_append, List.append_nil]

theorem exists_core (h : ∃ l ∈ lines, isBlankText l = false) : ∃ core, Core lines core := by
  have hne : lines.dropWhile isBlankText ≠ [] := by
    rw [Ne, List.dropWhile_eq_nil_iff]
    intro hall
    obtain ⟨l, hl, hblank⟩ := h
    rw [hall l hl] at hblank
    cases hblank
  have hfirst : isBlankText ((lines.dropWhile isBlankText).head hne) = false := by
    simpa using List.head_dropWhile_not isBlankText hne
  have hall := List.takeWhile_append_dropWhile (p := isBlankText) (l := lines)
  -- then the blank lines at the end of what is left are taken away
  generalize lines.dropWhile isBlankText = tail at hne hfirst hall
  have hcore : tail.rdropWhile isBlankText ≠ [] := by
    rw [Ne, List.rdropWhile_eq_nil_iff]
    intro hblank
    rw [hblank _ (List.head_mem hne)] at hfirst
    cases hfirst
  refine ⟨tail.rdropWhile isBlankText, ⟨⟨lines.takeWhile isBlankText, tail.rtakeWhile isBlankText,
    ?_, fun l hl => ?_, fun l hl => List.mem_rtakeWhile_imp hl⟩, ?_, ?_⟩⟩
  · rw [List.rdropWhile_append_rtakeWhile, hall]
  · exact List.all_eq_true.mp List.all_takeWhile l hl
  · refine ⟨_, List.head?_eq_some_head hcore, ?_⟩
    rwa [(List.rdropWhile_prefix isBlankText tail).head hcore]
  · refine ⟨_, List.getLast?_eq_some_getLast hcore, ?_⟩
    simpa using List.rdropWhile_last_not isBlankText tail hcore

/-- The lines of a body are read as a whole, without the blank ones at both ends. -/
theorem bodyOf_eq_of_core (h : Core lines core) :
    bodyOf lines = match ScriptScan.bodyFile? (unlines core) with
      | some path => .file path
      | none => .inline (String.ofList (unlines core)) := by
  obtain ⟨front, back, rfl, hfront, hback⟩ := h.between
  obtain ⟨first, hfirst, hfirstBlank⟩ := h.first
  obtain ⟨last, hlast, hlastBlank⟩ := h.last
  have hstart : (front ++ (core ++ back)).dropWhile isBlankText = core ++ back := by
    rw [List.dropWhile_append_of_pos hfront]
    obtain ⟨tail, rfl⟩ := List.head?_eq_some_iff.mp hfirst
    rw [List.cons_append, List.dropWhile_cons_of_neg (by simpa using hfirstBlank)]
  have hend : ((core ++ back).reverse.dropWhile isBlankText).reverse = core := by
    rw [List.reverse_append, List.dropWhile_append_of_pos (by simpa using hback)]
    obtain ⟨init, rfl⟩ := List.getLast?_eq_some_iff.mp hlast
    rw [List.reverse_append, List.reverse_singleton, List.singleton_append,
      List.dropWhile_cons_of_neg (by simpa using hlastBlank)]
    simp
  have hne : core.isEmpty = false := by
    obtain ⟨tail, rfl⟩ := List.head?_eq_some_iff.mp hfirst
    rfl
  simp only [bodyOf, hstart, hend, hne]
  rfl

theorem bodyOf_eq_none (h : ∀ l ∈ lines, isBlankText l = true) : bodyOf lines = .none := by
  have hnil : lines.dropWhile isBlankText = [] := List.dropWhile_eq_nil_iff.mpr h
  simp [bodyOf, hnil]

/-- The body is a file exactly when the words of all lines are those of a reference. -/
theorem bodyOf_eq_file_iff : bodyOf lines = .file path ↔
    (RequestBody.file path).WellFormed ∧ lines.flatMap words = [['<'], path.toList] := by
  by_cases hall : ∀ l ∈ lines, isBlankText l = true
  · rw [bodyOf_eq_none hall, flatMap_words_eq_nil hall]
    simp
  · obtain ⟨core, hcore⟩ := exists_core (by simpa using hall)
    rw [bodyOf_eq_of_core hcore, ← hcore.flatMap_words, ← Text.words_unlines, ← refers_iff_words,
      ← bodyFile?_eq_some_iff]
    cases ScriptScan.bodyFile? (unlines core) with
    | none => simp
    | some path' => simp

/-! ### Lines that are not blank -/

/-- The lines that are not blank. -/
def shown (lines : List (List Char)) : List (List Char) := lines.filter (!isBlankText ·)

theorem flatMap_words_shown (lines : List (List Char)) :
    (shown lines).flatMap words = lines.flatMap words := by
  induction lines with
  | nil => rfl
  | cons l lines ih =>
      rw [shown] at ih ⊢
      cases hl : isBlankText l with
      | true =>
          rw [List.filter_cons_of_neg (by simp [hl]), ih, List.flatMap_cons,
            Text.words_eq_nil_iff.mpr hl, List.nil_append]
      | false =>
          rw [List.filter_cons_of_pos (by simp [hl]), List.flatMap_cons, List.flatMap_cons, ih]

theorem exists_words_eq_cons {l : List Char} (h : l ∈ shown lines) :
    ∃ w ws, words l = w :: ws := by
  apply List.exists_cons_of_ne_nil
  intro hnil
  have hblank := Text.words_eq_nil_iff.mp hnil
  simp [shown, hblank] at h

/-- Two words of lines that are not blank are those of one line or of two. -/
theorem flatMap_words_eq_pair_iff {v w : List Char} : lines.flatMap words = [v, w] ↔
    (∃ line, shown lines = [line] ∧ words line = [v, w]) ∨
      ∃ first second, shown lines = [first, second] ∧ words first = [v] ∧ words second = [w] := by
  rw [← flatMap_words_shown]
  constructor
  · intro h
    -- no line that is not blank is without words, so there are no more lines than words
    have hwords : ∀ l ∈ shown lines, ∃ w ws, words l = w :: ws := fun l => exists_words_eq_cons
    rcases hlines : shown lines with - | ⟨first, - | ⟨second, rest⟩⟩
    · rw [hlines] at h
      cases h
    · exact .inl ⟨first, rfl, by simpa [hlines] using h⟩
    · rw [hlines, List.flatMap_cons, List.flatMap_cons] at h
      rw [hlines] at hwords
      obtain ⟨a, as, hfirst⟩ := hwords first (by simp)
      obtain ⟨b, bs, hsecond⟩ := hwords second (by simp)
      rw [hfirst, hsecond, List.cons_append, List.cons.injEq] at h
      obtain ⟨rfl, h⟩ := h
      cases as with
      | cons c as => simp at h
      | nil =>
          rw [List.nil_append, List.cons_append, List.cons.injEq, List.append_eq_nil_iff] at h
          obtain ⟨rfl, rfl, hrest⟩ := h
          obtain rfl : rest = [] := by
            cases rest with
            | nil => rfl
            | cons third rest =>
                obtain ⟨c, cs, hthird⟩ := hwords third (by simp)
                simp [hthird] at hrest
          exact .inr ⟨first, second, rfl, hfirst, hsecond⟩
  · rintro (⟨line, hline, hwords⟩ | ⟨first, second, hlines, hfirst, hsecond⟩)
    · simp [hline, hwords]
    · simp [hlines, hfirst, hsecond]

/-! ### The reading of a body -/

/-- The lines are read as a reference in a single line asks for: a body is a file exactly when one
line alone is not blank and refers to it; any other body is the text of the lines. -/
structure Classified (lines : List (List Char)) : Prop where
  file : ∀ path, bodyOf lines = .file path ↔ ∃ line, shown lines = [line] ∧ Refers line path
  text : (∀ line path, shown lines = [line] → ¬ Refers line path) →
    ∃ core, Core lines core ∧ bodyOf lines = .inline (String.ofList (unlines core))

/-- A reference that is parted: two lines are not blank, a `<` and the path. -/
def Parted (lines : List (List Char)) (path : String) : Prop :=
  (RequestBody.file path).WellFormed ∧ ∃ first second, shown lines = [first, second] ∧
    trim first = ['<'] ∧ trim second = path.toList

/-- The body is a file when one line refers to it, or a pair of lines does. -/
theorem bodyOf_eq_file_iff_or : bodyOf lines = .file path ↔
    (∃ line, shown lines = [line] ∧ Refers line path) ∨ Parted lines path := by
  rw [bodyOf_eq_file_iff, flatMap_words_eq_pair_iff, and_or_left]
  refine or_congr ?_ (and_congr_right fun hpath => ?_)
  · simp only [refers_iff_words]
    tauto
  · have hone : ∀ l, words l = [path.toList] ↔ trim l = path.toList := fun l => by
      rw [Text.words_eq_singleton_iff]
      exact and_iff_left ⟨by simpa using hpath.1.ne_empty, hpath.1.noBlank⟩
    have hsign : ∀ l, words l = [['<']] ↔ trim l = ['<'] := fun l => by
      rw [Text.words_eq_singleton_iff]
      exact and_iff_left ⟨by simp, Text.isBlank_eq_false_of_any rfl⟩
    simp only [hone, hsign]

/-- **A body is read as a reference in a single line asks for, exactly when its lines are no
reference that is parted**; such lines are taken for the file. -/
theorem classified_iff_not_parted (h : ∃ l ∈ lines, isBlankText l = false) :
    (Classified lines ↔ ∀ path, ¬ Parted lines path) ∧
      ∀ path, Parted lines path → bodyOf lines = .file path := by
  refine ⟨⟨fun hclass path hparted => ?_, fun hno => ⟨fun path => ?_, fun hsingle => ?_⟩⟩,
    fun path hparted => bodyOf_eq_file_iff_or.mpr (.inr hparted)⟩
  · -- the lines of a pair are two, and not one
    obtain ⟨line, hline, -⟩ := (hclass.file path).mp (bodyOf_eq_file_iff_or.mpr (.inr hparted))
    obtain ⟨-, first, second, hlines, -⟩ := hparted
    rw [hline] at hlines
    cases hlines
  · rw [bodyOf_eq_file_iff_or]
    exact or_iff_left (hno path)
  · obtain ⟨core, hcore⟩ := exists_core h
    refine ⟨core, hcore, ?_⟩
    have hbody := bodyOf_eq_of_core hcore
    cases hfile : ScriptScan.bodyFile? (unlines core) with
    | none => rw [hbody, hfile]
    | some path =>
        rw [hfile] at hbody
        rcases bodyOf_eq_file_iff_or.mp hbody with ⟨line, hline, hrefers⟩ | hparted
        · exact absurd hrefers (hsingle line path hline)
        · exact absurd hparted (hno path)

theorem classified_iff_not_parted_indented :
    (∃ l ∈ ["".toList, "  < ./data.json ".toList, "\t".toList], isBlankText l = false) ∧
      Classified ["".toList, "  < ./data.json ".toList, "\t".toList] := by
  have hline : ∃ l ∈ ["".toList, "  < ./data.json ".toList, "\t".toList],
      isBlankText l = false := by decide
  refine ⟨hline, (classified_iff_not_parted hline).1.mpr ?_⟩
  rintro path ⟨-, first, second, hlines, -⟩
  have hone : shown ["".toList, "  < ./data.json ".toList, "\t".toList] =
      ["  < ./data.json ".toList] := by decide
  rw [hone] at hlines
  cases hlines

/-- A `<` with a name on the next line is a text of two lines, but is taken for a file. -/
theorem not_classified_parted : ¬ Classified ["<".toList, "./data.json".toList] := by
  intro hclass
  have hfile : bodyOf ["<".toList, "./data.json".toList] = .file "./data.json" := by decide
  obtain ⟨line, hline, -⟩ := (hclass.file "./data.json").mp hfile
  have htwo : shown ["<".toList, "./data.json".toList] =
      ["<".toList, "./data.json".toList] := by decide
  rw [htwo] at hline
  cases hline

end RequestZone

end HttpSuite
