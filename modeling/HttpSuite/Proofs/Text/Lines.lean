/-
HttpSuite/Proofs/Text/Lines.lean

Lines that are put together and taken apart again.  A printer joins texts in three ways: lines by
line feeds (`unlines`), words by blanks, a name and a value by a colon.  Here the reading functions
are shown to undo them, as long as the parts do not hold the mark that they are joined by:

    lines (unlines ls) = ls   words (w ++ b :: s) = w :: words s   splitOnce? (a ++ c :: b) = (a, b)

and trimming is described by the ends of a text (`trim_eq_self_iff`), so that what a trimmed part
contributes to a line is known without a look at its middle.
-/
import HttpSuite.Text.Lines
import HttpSuite.Text.Search

namespace HttpSuite.Text

/-! ### Lines -/

/-- Lines that are joined are the pieces between the ends of lines. -/
theorem lines_unlines_eq_linesOfPieces {ls : List (List Char)} (noFeed : ∀ l ∈ ls, '\n' ∉ l) :
    lines (unlines ls) = linesOfPieces ls := by
  by_cases hls : ls = []
  · subst hls
    rfl
  · rw [lines, unlines, List.splitOn_intercalate '\n' noFeed hls]

/-- Lines that hold no end of a line, the last of which is not empty, are read back. -/
theorem lines_unlines {ls : List (List Char)} (noFeed : ∀ l ∈ ls, '\n' ∉ l)
    (noReturn : ∀ l ∈ ls, '\r' ∉ l) (last : ls.getLast? ≠ some []) : lines (unlines ls) = ls := by
  rw [lines_unlines_eq_linesOfPieces noFeed]
  refine linesOfPieces_eq_self (fun l hl hreturn => ?_) last
  exact noReturn l hl (List.mem_of_getLast? hreturn)

theorem unlines_cons_cons (l l' : List Char) (ls : List (List Char)) :
    unlines (l :: l' :: ls) = l ++ '\n' :: unlines (l' :: ls) := by
  simp [unlines, List.intercalate_cons_cons]

theorem unlines_cons_of_ne_nil (l : List Char) {ls : List (List Char)} (h : ls ≠ []) :
    unlines (l :: ls) = l ++ '\n' :: unlines ls := by
  obtain ⟨l', ls, rfl⟩ := List.exists_cons_of_ne_nil h
  exact unlines_cons_cons l l' ls

theorem unlines_append {xs ys : List (List Char)} (hxs : xs ≠ []) (hys : ys ≠ []) :
    unlines (xs ++ ys) = unlines xs ++ '\n' :: unlines ys := by
  induction xs with
  | nil => exact absurd rfl hxs
  | cons l xs ih =>
      cases xs with
      | nil =>
          rw [List.singleton_append, unlines_cons_of_ne_nil l hys]
          simp [unlines]
      | cons l' xs =>
          rw [List.cons_append, unlines_cons_of_ne_nil l (by simp), ih (by simp),
            unlines_cons_cons]
          simp

/-- Lines that are joined in groups first are joined. -/
theorem unlines_flatten {groups : List (List (List Char))} (h : ∀ g ∈ groups, g ≠ []) :
    unlines groups.flatten = unlines (groups.map unlines) := by
  induction groups with
  | nil => rfl
  | cons g groups ih =>
      have hg := h g List.mem_cons_self
      have hrest := ih fun g' hg' => h g' (List.mem_cons_of_mem _ hg')
      rw [List.flatten_cons, List.map_cons]
      cases groups with
      | nil => simp [unlines]
      | cons g' groups =>
          have hne : (g' :: groups).flatten ≠ [] := by
            intro hnil
            exact h g' (by simp) (List.append_eq_nil_iff.mp hnil).1
          rw [unlines_append hg hne, hrest, unlines_cons_of_ne_nil _ (by simp)]

theorem unlines_splitOn (s : List Char) : unlines (s.splitOn '\n') = s :=
  List.intercalate_splitOn '\n'

/-- Joined texts are cut at the ends of lines as each of them is. -/
theorem splitOn_unlines {texts : List (List Char)} (h : texts ≠ []) :
    (unlines texts).splitOn '\n' = texts.flatMap (·.splitOn '\n') := by
  induction texts with
  | nil => exact absurd rfl h
  | cons text texts ih =>
      by_cases hnil : texts = []
      · subst hnil
        simp [unlines]
      · rw [unlines_cons_of_ne_nil text hnil, List.splitOn_append_cons_self, ih hnil,
          List.flatMap_cons]

/-- A character of joined texts is an end of a line or one of a text. -/
theorem mem_unlines {c : Char} {texts : List (List Char)} (h : c ∈ unlines texts) :
    c = '\n' ∨ ∃ text ∈ texts, c ∈ text := by
  induction texts with
  | nil => simp [unlines] at h
  | cons text texts ih =>
      by_cases hnil : texts = []
      · subst hnil
        exact .inr ⟨text, List.mem_cons_self, by simpa [unlines] using h⟩
      · rw [unlines_cons_of_ne_nil text hnil, List.mem_append, List.mem_cons] at h
        rcases h with h | rfl | h
        · exact .inr ⟨text, List.mem_cons_self, h⟩
        · exact .inl rfl
        · refine (ih h).imp_right ?_
          rintro ⟨t, ht, hc⟩
          exact ⟨t, List.mem_cons_of_mem text ht, hc⟩

theorem unlines_ne_nil {texts : List (List Char)} (hne : texts ≠ [])
    (h : ∀ text ∈ texts, text ≠ []) : unlines texts ≠ [] := by
  obtain ⟨text, texts, rfl⟩ := List.exists_cons_of_ne_nil hne
  by_cases hnil : texts = []
  · subst hnil
    simpa [unlines] using h
  · rw [unlines_cons_of_ne_nil text hnil]
    simp

/-- Joined texts end with the end of a line only if one of them does, or the last one is empty. -/
theorem getLast?_unlines_ne {texts : List (List Char)}
    (h : ∀ text ∈ texts, text.getLast? ≠ some '\n') (last : texts.getLast? ≠ some []) :
    (unlines texts).getLast? ≠ some '\n' := by
  rcases List.eq_nil_or_concat texts with rfl | ⟨front, text, rfl⟩
  · simp [unlines]
  · rw [List.concat_eq_append] at h last ⊢
    have htext := h text (by simp)
    obtain ⟨c, t, rfl⟩ : ∃ c t, text = c :: t :=
      List.exists_cons_of_ne_nil (by simpa using last)
    by_cases hnil : front = []
    · subst hnil
      simpa [unlines] using htext
    · rw [unlines_append hnil (by simp), unlines, unlines, List.intercalate_singleton,
        List.getLast?_append, List.getLast?_cons_cons, List.getLast?_cons]
      rw [List.getLast?_cons] at htext
      simpa using htext

/-- The pieces of a text hold characters of it, but not the one between them. -/
theorem of_mem_splitOn {c : Char} {s piece : List Char} (h : piece ∈ s.splitOn c) :
    ∀ d ∈ piece, d ∈ s ∧ d ≠ c := by
  induction s generalizing piece with
  | nil =>
      obtain rfl : piece = [] := by simpa using h
      simp
  | cons a s ih =>
      obtain ⟨first, rest, hs⟩ := List.exists_cons_of_ne_nil (List.splitOn_ne_nil c s)
      have hpiece : ∀ p ∈ s.splitOn c, ∀ d ∈ p, d ∈ a :: s ∧ d ≠ c := fun p hp d hd =>
        ⟨List.mem_cons_of_mem a (ih hp d hd).1, (ih hp d hd).2⟩
      rw [List.splitOn_cons_eq_if_modifyHead, hs] at h
      rw [hs] at hpiece
      split at h
      · rcases List.mem_cons.mp h with rfl | h
        · simp
        · exact hpiece piece h
      · rename_i hac
        rcases List.mem_cons.mp h with rfl | h
        · intro d hd
          rcases List.mem_cons.mp hd with rfl | hd
          · exact ⟨List.mem_cons_self, by simpa using hac⟩
          · exact hpiece first List.mem_cons_self d hd
        · exact hpiece piece (List.mem_cons_of_mem _ h)

/-- A text without carriage returns that does not end with the end of a line is made up of its
lines. -/
theorem lines_eq_splitOn {s : List Char} (hne : s ≠ []) (noReturn : '\r' ∉ s)
    (last : s.getLast? ≠ some '\n') : lines s = s.splitOn '\n' := by
  refine linesOfPieces_eq_self (fun l hl hreturn => ?_) fun hlast => ?_
  · exact noReturn (of_mem_splitOn hl _ (List.mem_of_getLast? hreturn)).1
  · -- an empty last piece would stand behind the end of a line
    obtain ⟨front, hfront⟩ := List.getLast?_eq_some_iff.mp hlast
    have hs := unlines_splitOn s
    rw [hfront] at hs
    by_cases hnil : front = []
    · subst hnil
      exact hne (by simpa [unlines] using hs.symm)
    · rw [unlines_append hnil (by simp)] at hs
      exact last (by simp [← hs, unlines])

/-- Leaving out lines leaves out characters. -/
theorem unlines_sublist {xs ys : List (List Char)} (h : xs.Sublist ys) :
    (unlines xs).Sublist (unlines ys) := by
  induction h with
  | slnil => exact List.Sublist.refl _
  | @cons xs ys l h ih =>
      by_cases hys : ys = []
      · subst hys
        obtain rfl := List.sublist_nil.mp h
        exact List.nil_sublist _
      · rw [unlines_cons_of_ne_nil l hys]
        exact (ih.cons '\n').trans (List.sublist_append_right l _)
  | @cons_cons xs ys l h ih =>
      by_cases hxs : xs = []
      · subst hxs
        by_cases hys : ys = []
        · subst hys
          exact List.Sublist.refl _
        · rw [unlines_cons_of_ne_nil l hys, unlines, List.intercalate_singleton]
          exact List.sublist_append_left l _
      · have hys : ys ≠ [] := fun hys => hxs (List.sublist_nil.mp (hys ▸ h))
        rw [unlines_cons_of_ne_nil l hxs, unlines_cons_of_ne_nil l hys]
        exact (List.Sublist.refl l).append (ih.cons_cons '\n')

theorem dropReturn_sublist (s : List Char) : (dropReturn s).Sublist s := by
  rw [dropReturn]
  split
  · exact List.dropLast_sublist s
  · exact List.Sublist.refl s

/-- The first line ends at the first line feed. -/
theorem lines_append_feed {l : List Char} (h : '\n' ∉ l) (s : List Char) :
    lines (l ++ '\n' :: s) = dropReturn l :: lines s := by
  obtain ⟨piece, pieces, hs⟩ := List.exists_cons_of_ne_nil (List.splitOn_ne_nil '\n' s)
  rw [lines, lines, List.splitOn_append_cons_self, List.splitOn_eq_singleton h, hs]
  rfl

theorem dropReturn_concat (l : List Char) : dropReturn (l ++ ['\r']) = l := by
  simp [dropReturn]

theorem dropReturn_eq_self_iff {l : List Char} : dropReturn l = l ↔ l.getLast? ≠ some '\r' := by
  constructor
  · intro h hlast
    have hlength := congrArg List.length h
    have hne : l ≠ [] := by
      rintro rfl
      simp at hlast
    rw [dropReturn, if_pos hlast, List.length_dropLast] at hlength
    have hpos := List.length_pos_iff.mpr hne
    omega
  · intro h
    rw [dropReturn, if_neg h]

theorem dropReturn_eq_self {l : List Char} (h : '\r' ∉ l) : dropReturn l = l :=
  dropReturn_eq_self_iff.mpr fun hlast => h (List.mem_of_getLast? hlast)

/-- Taking the lines of a text leaves out characters. -/
theorem unlines_lines_sublist (s : List Char) : (unlines (lines s)).Sublist s := by
  have hpieces : ∀ ps : List (List Char), (unlines (linesOfPieces ps)).Sublist (unlines ps) := by
    intro ps
    induction ps using linesOfPieces.induct with
    | case1 => exact List.Sublist.refl _
    | case2 last h => simp [linesOfPieces, h, unlines]
    | case3 last h => simp [linesOfPieces, h]
    | case4 piece next rest ih =>
        rw [linesOfPieces, unlines_cons_cons]
        by_cases hnil : linesOfPieces (next :: rest) = []
        · rw [hnil, unlines, List.intercalate_singleton]
          exact (dropReturn_sublist piece).trans (List.sublist_append_left piece _)
        · rw [unlines_cons_of_ne_nil _ hnil]
          exact (dropReturn_sublist piece).append (ih.cons_cons '\n')
  have hs := hpieces (s.splitOn '\n')
  rwa [unlines_splitOn] at hs

/-- A line is what is left of a piece between the ends of lines. -/
theorem exists_of_mem_linesOfPieces {ps : List (List Char)} {l : List Char}
    (h : l ∈ linesOfPieces ps) : ∃ p ∈ ps, l = p ∨ l = dropReturn p := by
  induction ps using linesOfPieces.induct with
  | case1 => simp [linesOfPieces] at h
  | case2 last hlast => simp [linesOfPieces, hlast] at h
  | case3 last hlast =>
      obtain rfl : l = last := by simpa [linesOfPieces, hlast] using h
      exact ⟨l, List.mem_cons_self, .inl rfl⟩
  | case4 piece next rest ih =>
      rcases List.mem_cons.mp h with rfl | h
      · exact ⟨piece, List.mem_cons_self, .inr rfl⟩
      · obtain ⟨p, hp, hl⟩ := ih h
        exact ⟨p, List.mem_cons_of_mem piece hp, hl⟩

/-- All pieces but the last one lose a carriage return at their ends. -/
theorem linesOfPieces_append_cons (front : List (List Char)) (piece : List Char)
    (back : List (List Char)) :
    linesOfPieces (front ++ piece :: back) =
      front.map dropReturn ++ linesOfPieces (piece :: back) := by
  induction front with
  | nil => rfl
  | cons first front ih =>
      obtain ⟨next, rest, hnext⟩ : ∃ next rest, front ++ piece :: back = next :: rest :=
        List.exists_cons_of_ne_nil (by simp)
      rw [List.cons_append, hnext, linesOfPieces, ← hnext, ih]
      rfl

/-- Lines that are joined are read back without the carriage returns at their ends, up to the last
one, which is kept as it is. -/
theorem lines_unlines_concat {front : List (List Char)} {last : List Char}
    (noFeed : ∀ l ∈ front ++ [last], '\n' ∉ l) (hlast : last ≠ []) :
    lines (unlines (front ++ [last])) = front.map dropReturn ++ [last] := by
  have hsingle : linesOfPieces [last] = [last] := by simp [linesOfPieces, hlast]
  rw [lines_unlines_eq_linesOfPieces noFeed, linesOfPieces_append_cons, hsingle]

/-- No line holds the end of a line. -/
theorem newline_not_mem_lines {s l : List Char} (h : l ∈ lines s) : '\n' ∉ l := by
  intro hmem
  obtain ⟨p, hp, rfl | rfl⟩ := exists_of_mem_linesOfPieces h
  · exact (of_mem_splitOn hp '\n' hmem).2 rfl
  · exact (of_mem_splitOn hp '\n' ((dropReturn_sublist p).subset hmem)).2 rfl

/-- Two characters that follow each other in two texts with a third character between them do so in
one of the two, at the same place. -/
theorem pair_append_cons {a b c : Char} {s t x y : List Char} (ha : c ≠ a) (hb : c ≠ b)
    (h : s ++ c :: t = x ++ a :: b :: y) :
    (∃ y', s = x ++ a :: b :: y' ∧ y = y' ++ c :: t) ∨
      ∃ x', t = x' ++ a :: b :: y ∧ x = s ++ c :: x' := by
  rcases List.append_eq_append_iff.mp h with ⟨w, rfl, hw⟩ | ⟨w, rfl, hw⟩
  · cases w with
    | nil => exact absurd (List.cons.inj hw).1 ha
    | cons d w =>
        obtain ⟨rfl, rfl⟩ := List.cons.inj hw
        exact .inr ⟨w, rfl, rfl⟩
  · -- the pair starts in the first text, and does not go on over the seam
    match w with
    | [] => exact absurd (List.cons.inj hw).1.symm ha
    | [d] =>
        simp only [List.cons_append, List.nil_append, List.cons.injEq] at hw
        exact absurd hw.2.1.symm hb
    | d :: e :: w =>
        simp only [List.cons_append, List.cons.injEq] at hw
        obtain ⟨rfl, rfl, rfl⟩ := hw
        exact .inl ⟨w, rfl, rfl⟩

/-- Two characters that follow each other in neither of two texts do not do so in the two with a
third character between them. -/
theorem not_pair_infix_append_cons {a b c : Char} {s t : List Char} (ha : c ≠ a) (hb : c ≠ b)
    (hs : ¬ [a, b] <:+: s) (ht : ¬ [a, b] <:+: t) : ¬ [a, b] <:+: s ++ c :: t := by
  rintro ⟨x, y, h⟩
  have hpair : s ++ c :: t = x ++ a :: b :: y := by simpa using h.symm
  rcases pair_append_cons ha hb hpair with ⟨y', rfl, -⟩ | ⟨x', rfl, -⟩
  · exact hs ⟨x, y', by simp⟩
  · exact ht ⟨x', y, by simp⟩

/-- Two characters that follow each other in joined lines do so in one of the lines. -/
theorem not_pair_infix_unlines {a b : Char} {ls : List (List Char)} (ha : '\n' ≠ a) (hb : '\n' ≠ b)
    (h : ∀ l ∈ ls, ¬ [a, b] <:+: l) : ¬ [a, b] <:+: unlines ls := by
  induction ls with
  | nil => simp [unlines]
  | cons l ls ih =>
      have hl := h l List.mem_cons_self
      have hls := ih fun l' hl' => h l' (List.mem_cons_of_mem _ hl')
      cases ls with
      | nil => simpa [unlines] using hl
      | cons l' ls =>
          rw [unlines_cons_cons]
          exact not_pair_infix_append_cons ha hb hl hls

/-! ### Trimming -/

/-- Blanks at the end of a text do not matter to what stands in front of a character that is none.
-/
theorem trimEnd_append_cons {c : Char} (hc : isBlank c = false) (s t : List Char) :
    trimEnd (s ++ c :: t) = s ++ c :: trimEnd t := by
  -- from the back, the blanks come to an end at `c`
  have hdrop : ∀ u : List Char, (u ++ c :: s.reverse).dropWhile isBlank =
      u.dropWhile isBlank ++ c :: s.reverse := by
    intro u
    induction u with
    | nil => simp [hc]
    | cons x u ih =>
        by_cases hx : isBlank x = true
        · simpa [hx] using ih
        · simp [hx]
  have hreverse : (s ++ c :: t).reverse = t.reverse ++ c :: s.reverse := by simp
  rw [trimEnd, hreverse, hdrop]
  simp [trimEnd]

theorem trim_cons_of_blank {c : Char} (hc : isBlank c = true) (s : List Char) :
    trim (c :: s) = trim s := by
  simp [trim, trimStart, hc]

theorem trim_cons_of_not_blank {c : Char} (hc : isBlank c = false) (s : List Char) :
    trim (c :: s) = c :: trimEnd s := by
  rw [trim, trimStart_cons_of_not_blank hc]
  exact trimEnd_append_cons hc [] s

/-- A trimmed text starts as the text without its blanks in front. -/
theorem head?_trim (s : List Char) : (trim s).head? = (trimStart s).head? := by
  rw [trim]
  rcases hs : trimStart s with - | ⟨c, t⟩
  · rfl
  · rw [show trimEnd (c :: t) = c :: trimEnd t from trimEnd_append_cons (head_trimStart hs) [] t]
    rfl

/-- What follows a text that is not blank does not change how it starts. -/
theorem head?_trimStart_append {s : List Char} (hs : isBlankText s = false) (t : List Char) :
    (trimStart (s ++ t)).head? = (trimStart s).head? := by
  induction s with
  | nil => simp [isBlankText] at hs
  | cons c s ih =>
      cases hc : isBlank c with
      | true =>
          have hrest : isBlankText s = false := by simpa [isBlankText, hc] using hs
          simpa [trimStart, hc] using ih hrest
      | false => simp [trimStart, hc]

/-- A trimmed text has no blank at an end. -/
theorem trim_ends (s : List Char) : (∀ c, (trim s).head? = some c → isBlank c = false) ∧
    ∀ c, (trim s).getLast? = some c → isBlank c = false := by
  constructor
  · intro c hc
    rw [head?_trim] at hc
    obtain ⟨t, ht⟩ := List.head?_eq_some_iff.mp hc
    exact head_trimStart ht
  · intro c hc
    obtain ⟨t, ht⟩ := List.getLast?_eq_some_iff.mp hc
    exact getLast_trimEnd ht

theorem trim_trim (s : List Char) : trim (trim s) = trim s :=
  trim_eq_self (trim_ends s).1 (trim_ends s).2

/-- The texts that trimming keeps are those with no blank at an end. -/
theorem trim_eq_self_iff {s : List Char} :
    trim s = s ↔ (∀ c, s.head? = some c → isBlank c = false) ∧
      ∀ c, s.getLast? = some c → isBlank c = false := by
  constructor
  · intro h
    have hends := trim_ends s
    rwa [h] at hends
  · rintro ⟨first, last⟩
    exact trim_eq_self first last

/-- A text that trimming keeps has no blanks in front. -/
theorem trimStart_eq_self {s : List Char} (h : trim s = s) : trimStart s = s := by
  cases s with
  | nil => rfl
  | cons c t => exact trimStart_cons_of_not_blank ((trim_eq_self_iff.mp h).1 c rfl)

/-- A text that starts with no blank and ends with a trimmed one is trimmed. -/
theorem trim_append_cons {a c : Char} {s t : List Char} (hhead : s.head? = some a)
    (ha : isBlank a = false) (ht : trim t = t) (hne : t ≠ []) :
    trim (s ++ c :: t) = s ++ c :: t := by
  obtain ⟨s, rfl⟩ := List.head?_eq_some_iff.mp hhead
  obtain ⟨b, t, rfl⟩ := List.exists_cons_of_ne_nil hne
  refine trim_eq_self_iff.mpr ⟨fun d hd => ?_, fun d hd => ?_⟩
  · obtain rfl : a = d := by simpa using hd
    exact ha
  · -- the last character is that of the second text, which has one
    rw [List.getLast?_append, List.getLast?_cons_cons, List.getLast?_cons] at hd
    exact (trim_eq_self_iff.mp ht).2 d (by simpa [List.getLast?_cons] using hd)

/-- Trimmed texts are trimmed when they are joined. -/
theorem trim_append {s t : List Char} (hs : trim s = s) (ht : trim t = t) :
    trim (s ++ t) = s ++ t := by
  obtain ⟨hfirst, hlast⟩ := trim_eq_self_iff.mp hs
  obtain ⟨hfirst', hlast'⟩ := trim_eq_self_iff.mp ht
  refine trim_eq_self_iff.mpr ⟨fun c hc => ?_, fun c hc => ?_⟩
  · rw [List.head?_append, Option.or_eq_some_iff] at hc
    exact hc.elim (hfirst c) fun h => hfirst' c h.2
  · rw [List.getLast?_append, Option.or_eq_some_iff] at hc
    exact hc.elim (hlast' c) fun h => hlast c h.2

theorem trimEnd_concat_of_blank {c : Char} (hc : isBlank c = true) (s : List Char) :
    trimEnd (s ++ [c]) = trimEnd s := by
  simp [trimEnd, hc]

theorem trim_concat_of_blank {c : Char} (hc : isBlank c = true) (s : List Char) :
    trim (s ++ [c]) = trim s := by
  induction s with
  | nil => exact trim_cons_of_blank hc []
  | cons a s ih =>
      cases ha : isBlank a with
      | true => rw [List.cons_append, trim_cons_of_blank ha, ih, trim_cons_of_blank ha]
      | false =>
          rw [List.cons_append, trim_cons_of_not_blank ha, trimEnd_concat_of_blank hc,
            trim_cons_of_not_blank ha]

/-- Nothing is left of a text of blanks alone. -/
theorem trim_eq_nil_iff {s : List Char} : trim s = [] ↔ isBlankText s = true := by
  induction s with
  | nil => simp [isBlankText]
  | cons c s ih =>
      cases hc : isBlank c with
      | true =>
          rw [trim_cons_of_blank hc, ih]
          simp [isBlankText, hc]
      | false =>
          rw [trim_cons_of_not_blank hc]
          simp [isBlankText, hc]

theorem trim_dropReturn (s : List Char) : trim (dropReturn s) = trim s := by
  rw [dropReturn]
  split
  · rename_i h
    obtain ⟨t, rfl⟩ := List.getLast?_eq_some_iff.mp h
    rw [List.dropLast_concat, trim_concat_of_blank (by decide)]
  · rfl

theorem trimEnd_dropReturn (s : List Char) : trimEnd (dropReturn s) = trimEnd s := by
  rw [dropReturn]
  split
  · rename_i h
    obtain ⟨t, rfl⟩ := List.getLast?_eq_some_iff.mp h
    rw [List.dropLast_concat, trimEnd_concat_of_blank (by decide)]
  · rfl

theorem isBlankText_dropReturn (s : List Char) : isBlankText (dropReturn s) = isBlankText s := by
  rw [Bool.eq_iff_iff, ← trim_eq_nil_iff, trim_dropReturn, trim_eq_nil_iff]

/-- What is left of a trimmed text are characters of it. -/
theorem mem_of_mem_trim {c : Char} {s : List Char} (h : c ∈ trim s) : c ∈ s := by
  have hstart : (trimStart s).Sublist s := List.dropWhile_sublist isBlank
  have hend : ((trimStart s).reverse.dropWhile isBlank).reverse.Sublist (trimStart s) := by
    simpa using (List.dropWhile_sublist isBlank (l := (trimStart s).reverse)).reverse
  exact (hend.trans hstart).subset h

/-- What stands behind a blank is either nothing or kept with the blank. -/
theorem trimEnd_cons_of_blank {c : Char} (hc : isBlank c = true) {s : List Char} (hs : trim s = s) :
    trimEnd (c :: s) = if s = [] then [] else c :: s := by
  split
  · rename_i h
    subst h
    simp [trimEnd, hc]
  · rename_i h
    obtain ⟨t, b, rfl⟩ : ∃ t b, s = t ++ [b] := ⟨_, _, (List.dropLast_concat_getLast h).symm⟩
    have hb : isBlank b = false := (trim_eq_self_iff.mp hs).2 b (by simp)
    exact trimEnd_append_of_not_blank (s := c :: t) hb

/-- What stands behind a blank is found by trimming what is left of it at the end of a text. -/
theorem trim_trimEnd_cons {c : Char} (hc : isBlank c = true) {s : List Char} (hs : trim s = s) :
    trim (trimEnd (c :: s)) = s := by
  rw [trimEnd_cons_of_blank hc hs]
  split
  · rename_i h
    exact h.symm
  · rw [trim_cons_of_blank hc, hs]

/-! ### Lines that are not blank -/

/-- The lines that are not blank, without the blanks at their ends. -/
def content (ls : List (List Char)) : List (List Char) := (ls.map trim).filter (!·.isEmpty)

theorem content_nil : content [] = [] := rfl

theorem content_cons_of_blank {l : List Char} (h : trim l = []) (ls : List (List Char)) :
    content (l :: ls) = content ls := by
  simp [content, h]

theorem content_cons_of_ne_nil {l : List Char} (h : trim l ≠ []) (ls : List (List Char)) :
    content (l :: ls) = trim l :: content ls := by
  simp [content, h]

theorem content_append (xs ys : List (List Char)) :
    content (xs ++ ys) = content xs ++ content ys := by
  rw [content, List.map_append, List.filter_append]
  rfl

/-- The ends of lines are blanks, so the pieces between line feeds have the content of the lines. -/
theorem content_linesOfPieces (ps : List (List Char)) :
    content (linesOfPieces ps) = content ps := by
  induction ps using linesOfPieces.induct with
  | case1 => rfl
  | case2 last h =>
      obtain rfl : last = [] := by simpa using h
      rfl
  | case3 last h => rw [linesOfPieces, if_neg h]
  | case4 piece next rest ih =>
      rw [linesOfPieces]
      by_cases hpiece : trim piece = []
      · rw [content_cons_of_blank (by rw [trim_dropReturn, hpiece]), ih,
          content_cons_of_blank hpiece]
      · rw [content_cons_of_ne_nil (by rwa [trim_dropReturn]), ih, trim_dropReturn,
          content_cons_of_ne_nil hpiece]

/-- The pieces that are not blank are lines, unless one but the last has a carriage return at its
end. -/
theorem filter_linesOfPieces_eq_iff (ps : List (List Char)) :
    (linesOfPieces ps).filter (!isBlankText ·) = ps.filter (!isBlankText ·) ↔
      ∀ p ∈ ps.dropLast, isBlankText p = false → p.getLast? ≠ some '\r' := by
  induction ps using linesOfPieces.induct with
  | case1 => simp [linesOfPieces]
  | case2 last h =>
      obtain rfl : last = [] := by simpa using h
      simp [linesOfPieces, isBlankText]
  | case3 last h => simp [linesOfPieces, h]
  | case4 piece next rest ih =>
      rw [linesOfPieces, List.dropLast_cons_cons, List.forall_mem_cons, ← ih]
      cases hpiece : isBlankText piece with
      | true => simp [hpiece, isBlankText_dropReturn]
      | false => simp [hpiece, isBlankText_dropReturn, dropReturn_eq_self_iff]

/-- Lines that are joined and taken apart again have the same content. -/
theorem content_lines_unlines {ls : List (List Char)} (noFeed : ∀ l ∈ ls, '\n' ∉ l) :
    content (lines (unlines ls)) = content ls := by
  rw [lines_unlines_eq_linesOfPieces noFeed, content_linesOfPieces]

/-! ### Words -/

/-- From behind the space up to the end of ASCII, and a little further, no character is a blank. -/
theorem isBlank_of_toNat {c : Char} (hlow : 33 ≤ c.toNat) (hhigh : c.toNat ≤ 132) :
    isBlank c = false := by
  simp only [isBlank, Bool.or_eq_false_iff, Bool.and_eq_false_iff, decide_eq_false_iff_not,
    beq_eq_false_iff_ne]
  omega

/-- A text is free of characters of a kind if none is found in it. -/
theorem eq_false_of_any {p : Char → Bool} {s : List Char} (h : s.any p = false) :
    ∀ c ∈ s, p c = false := by
  simpa using h

theorem isBlank_eq_false_of_any {s : List Char} (h : s.any isBlank = false) :
    ∀ c ∈ s, isBlank c = false :=
  eq_false_of_any h

/-- A text without blanks is one word. -/
theorem words_eq_singleton {w : List Char} (hne : w ≠ []) (hw : ∀ c ∈ w, isBlank c = false) :
    words w = [w] := by
  simp [words, List.splitOnP_eq_singleton hw, hne]

/-- A word ends before a blank. -/
theorem words_append_cons {w : List Char} {b : Char} (hne : w ≠ [])
    (hw : ∀ c ∈ w, isBlank c = false) (hb : isBlank b = true) (s : List Char) :
    words (w ++ b :: s) = w :: words s := by
  simp [words, List.splitOnP_append_cons_of_forall_mem hw b hb, hne]

/-- A blank belongs to no word, wherever it stands. -/
theorem words_append_cons_of_blank {c : Char} (hc : isBlank c = true) (s t : List Char) :
    words (s ++ c :: t) = words s ++ words t := by
  rw [words, List.splitOnP_append_cons s t hc, List.filter_append]
  rfl

theorem words_cons_of_blank {c : Char} (hc : isBlank c = true) (s : List Char) :
    words (c :: s) = words s := by
  simpa [words] using words_append_cons_of_blank hc [] s

theorem words_blank_append {s : List Char} (hs : isBlankText s = true) (t : List Char) :
    words (s ++ t) = words t := by
  induction s with
  | nil => rfl
  | cons c s ih =>
      obtain ⟨hc, hrest⟩ : isBlank c = true ∧ isBlankText s = true := by
        simpa [isBlankText] using hs
      rw [List.cons_append, words_cons_of_blank hc, ih hrest]

/-- A text that starts with no blank is one word, or a word that ends before a blank. -/
theorem takeWhile_not_blank_spec {c : Char} (hc : isBlank c = false) (s : List Char) :
    (c :: s).takeWhile (!isBlank ·) ≠ [] ∧
      (∀ a ∈ (c :: s).takeWhile (!isBlank ·), isBlank a = false) ∧
      ((c :: s).takeWhile (!isBlank ·) = c :: s ∨
        ∃ b rest, isBlank b = true ∧ c :: s = (c :: s).takeWhile (!isBlank ·) ++ b :: rest) := by
  have hsplit := List.takeWhile_append_dropWhile (p := (!isBlank ·)) (l := c :: s)
  refine ⟨by simp [hc], fun a ha => ?_, ?_⟩
  · simpa using List.all_eq_true.mp List.all_takeWhile a ha
  · rcases hdrop : (c :: s).dropWhile (!isBlank ·) with - | ⟨b, rest⟩
    · rw [hdrop, List.append_nil] at hsplit
      exact .inl hsplit
    · have hb : isBlank b = true := by
        simpa [hdrop] using List.head_dropWhile_not (!isBlank ·) (l := c :: s) (by simp [hdrop])
      rw [hdrop] at hsplit
      exact .inr ⟨b, rest, hb, hsplit.symm⟩

/-- A text that starts with no blank starts with its first word. -/
theorem words_cons {c : Char} (hc : isBlank c = false) (s : List Char) :
    ∃ rest, words (c :: s) = (c :: s).takeWhile (!isBlank ·) :: rest := by
  obtain ⟨hne, hword, h | ⟨b, rest, hb, h⟩⟩ := takeWhile_not_blank_spec hc s
  · rw [h] at hne hword ⊢
    exact ⟨[], words_eq_singleton hne hword⟩
  · refine ⟨words rest, ?_⟩
    conv => lhs; rw [h]
    exact words_append_cons hne hword hb rest

/-! ### Marks -/

/-- A text is cut at the first occurrence of a character. -/
theorem splitOnce?_append_cons {c : Char} {before : List Char} (h : c ∉ before)
    (after : List Char) :
    splitOnce? [c] (before ++ c :: after) = some (before, after) := by
  induction before with
  | nil => simp [splitOnce?, stripStart?]
  | cons a before ih =>
      have ha : c ≠ a := fun hca => h (hca ▸ List.mem_cons_self)
      have hrest : c ∉ before := fun hc => h (List.mem_cons_of_mem _ hc)
      simp [splitOnce?, stripStart?, ha, ih hrest]

/-- What stands in front of the cut does not hold the character. -/
theorem not_mem_of_splitOnce? {c : Char} {s before after : List Char}
    (h : splitOnce? [c] s = some (before, after)) : c ∉ before := by
  induction s generalizing before with
  | nil => simp [splitOnce?] at h
  | cons a s ih =>
      by_cases hca : c = a
      · obtain ⟨rfl, -⟩ : [] = before ∧ s = after := by simpa [splitOnce?, stripStart?, hca] using h
        exact List.not_mem_nil
      · have hs : (splitOnce? [c] s).map (fun p => (a :: p.1, p.2)) = some (before, after) := by
          simpa [splitOnce?, stripStart?, hca] using h
        obtain ⟨⟨before', after'⟩, hsplit, he⟩ := Option.map_eq_some_iff.mp hs
        obtain ⟨rfl, rfl⟩ : a :: before' = before ∧ after' = after := by simpa using he
        simp [hca, ih hsplit]

/-- A text is cut behind a part that does not hold the mark up to its last character, if the mark
ends as it starts and has the character nowhere else. -/
theorem splitOnce?_append_word {c : Char} {word : List Char} (hword : c ∉ word) {s : List Char}
    (h : ¬ c :: word <:+: s) (t : List Char) :
    splitOnce? (c :: word ++ [c]) (s ++ ((c :: word ++ [c]) ++ t)) = some (s, t) := by
  induction s with
  | nil =>
      have hstrip : stripStart? (c :: word ++ [c]) (c :: (word ++ [c] ++ t)) = some t :=
        stripStart?_eq_some.mpr rfl
      simp only [List.nil_append, List.cons_append] at hstrip ⊢
      rw [splitOnce?, hstrip]
  | cons a s ih =>
      have hstrip : stripStart? (c :: word ++ [c]) (a :: (s ++ ((c :: word ++ [c]) ++ t))) =
          none := by
        refine Option.eq_none_iff_forall_ne_some.mpr fun rest hrest => ?_
        have heq : (a :: s) ++ (c :: (word ++ [c] ++ t)) = (c :: word) ++ (c :: rest) := by
          simpa using stripStart?_eq_some.mp hrest
        rcases List.append_eq_append_iff.mp heq with ⟨y, hy, htail⟩ | ⟨x, hx, -⟩
        · -- the mark starts in the part and goes on behind it: then it starts with the part
          cases y with
          | nil => exact h ⟨[], [], by simpa using hy⟩
          | cons d y =>
              obtain ⟨rfl, -⟩ := List.cons.inj htail
              exact hword (by rw [(List.cons.inj hy).2]; simp)
        · exact h ⟨[], x, hx.symm⟩
      have hs : ¬ c :: word <:+: s := fun hs => h (hs.trans (List.suffix_cons a s).isInfix)
      have hrest := ih hs
      simp only [List.cons_append] at hstrip hrest ⊢
      rw [splitOnce?, hstrip, hrest]
      rfl

/-- A text is not cut when the mark does not occur in it. -/
theorem splitOnce?_eq_none_iff {mark s : List Char} :
    splitOnce? mark s = none ↔ ¬ mark <:+: s := by
  induction s with
  | nil => cases mark <;> simp [splitOnce?]
  | cons c s ih =>
      rw [List.infix_cons_iff, ← startsWith_iff, startsWith, splitOnce?]
      cases stripStart? mark (c :: s) with
      | some rest => simp
      | none => simpa using ih

/-- One text holds another one when it occurs in it. -/
theorem contains_iff {mark s : List Char} : contains mark s = true ↔ mark <:+: s := by
  rw [contains, Option.isSome_iff_ne_none, ne_eq, splitOnce?_eq_none_iff, Classical.not_not]

theorem endsWith_iff {tail s : List Char} : endsWith tail s = true ↔ tail <:+ s := by
  rw [endsWith, Option.isSome_iff_exists]
  exact ⟨fun ⟨r, h⟩ => ⟨r, (stripEnd?_eq_some.mp h).symm⟩,
    fun ⟨r, h⟩ => ⟨r, stripEnd?_eq_some.mpr h.symm⟩⟩

/-- A text that starts with another character does not start with a mark. -/
theorem startsWith_cons_eq_false {a c : Char} (h : a ≠ c) (front s : List Char) :
    startsWith (a :: front) (c :: s) = false := by
  simp [startsWith, stripStart?, h]

end HttpSuite.Text
