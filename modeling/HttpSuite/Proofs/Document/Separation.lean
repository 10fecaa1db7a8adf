/-
HttpSuite/Proofs/Document/Separation.lean

What keeps sections apart.  A document is the texts of its sections, one below the other, and
`split` is to give them back.  It drops comments first, over the whole document, and a comment may
go on over lines: one that starts in a section and ends in another takes the delimiter between them
with it.  So sections stay apart exactly when there is no comment (`split_unlines`).

A media range for everything is written with the marks of comments, the end in front of the start.
One of them is no comment, two of them are the ends of one:

    Accept: */* ... */*           is read as           Accept: **

Main result: where the marks of comments stand in media ranges only, sections stay apart exactly
when no two media ranges do (`split_eq_iff_not_twoRanges`).
-/
import HttpSuite.Document.Section
import HttpSuite.Proofs.Text.Lines
import Mathlib.Data.List.Flatten

namespace HttpSuite

open Text (unlines)

/-- A line that begins a section starts with a number sign. -/
theorem Line.head?_trim_of_isSectionDelimiter {line : List Char}
    (h : Line.isSectionDelimiter line = true) : (Text.trim line).head? = some '#' := by
  rw [Line.isSectionDelimiter, Bool.and_eq_true, Text.startsWith_iff] at h
  obtain ⟨⟨rest, hrest⟩, -⟩ := h
  rw [Text.head?_trim, ← hrest]
  rfl

namespace Section

/-! ### Comments -/

/-- A text with a comment in it: a start of one and an end behind it. -/
def Commented (s : List Char) : Prop :=
  ∃ before inside after, s = before ++ "/*".toList ++ inside ++ "*/".toList ++ after

theorem afterCommentEnd?_eq_none_iff {s : List Char} :
    afterCommentEnd? s = none ↔ ¬ "*/".toList <:+: s := by
  rw [afterCommentEnd?, Option.map_eq_none_iff]
  exact Text.splitOnce?_eq_none_iff

theorem infix_of_afterCommentEnd? {s after : List Char} (h : afterCommentEnd? s = some after) :
    "*/".toList <:+: s := by
  obtain ⟨⟨inside, after⟩, hsplit, rfl⟩ := Option.map_eq_some_iff.mp h
  exact ⟨inside, after, (Text.splitOnce?_eq_some hsplit).symm⟩

/-- A comment is one that starts a text or one of what follows its first character. -/
theorem commented_cons_iff {c : Char} {s : List Char} :
    Commented (c :: s) ↔
      (∃ rest, c :: s = '/' :: '*' :: rest ∧ "*/".toList <:+: rest) ∨ Commented s := by
  constructor
  · rintro ⟨before, inside, after, h⟩
    cases before with
    | nil => exact .inl ⟨_, h, inside, after, by simp⟩
    | cons a before =>
        exact .inr ⟨before, inside, after, by simpa using (List.cons.inj h).2⟩
  · rintro (⟨rest, h, inside, after, rfl⟩ | ⟨before, inside, after, rfl⟩)
    · exact ⟨[], inside, after, by simpa using h⟩
    · exact ⟨c :: before, inside, after, rfl⟩

/-- Dropping comments makes no text longer, and those shorter that have one. -/
theorem length_stripComments (s : List Char) :
    (stripComments s).length ≤ s.length ∧
      (Commented s → (stripComments s).length < s.length) := by
  fun_induction stripComments s with
  | case1 => exact ⟨Nat.le_refl _, by rintro ⟨before, inside, after, h⟩; simp at h⟩
  | case2 rest after hend hle ih =>
      have hshort : (stripComments after).length < ('/' :: '*' :: rest).length := by
        have := ih.1
        simp only [List.length_cons]
        omega
      exact ⟨Nat.le_of_lt hshort, fun _ => hshort⟩
  | case3 rest hnone ih =>
      -- no comment starts here, so one of the text would be one of what follows
      have hrest : Commented ('/' :: '*' :: rest) → Commented ('*' :: rest) := by
        rw [commented_cons_iff]
        rintro (⟨rest', h, hend⟩ | h)
        · obtain rfl : rest = rest' := by simpa using h
          exact absurd hend (afterCommentEnd?_eq_none_iff.mp hnone)
        · exact h
      simp only [List.length_cons] at ih ⊢
      exact ⟨by omega, fun h => by have := ih.2 (hrest h); omega⟩
  | case4 c rest hstart ih =>
      have hrest : Commented (c :: rest) → Commented rest := by
        rw [commented_cons_iff]
        rintro (⟨rest', h, -⟩ | h)
        · obtain ⟨rfl, rfl⟩ := List.cons.inj h
          exact absurd rfl (hstart rest' rfl)
        · exact h
      simp only [List.length_cons]
      exact ⟨by omega, fun h => by have := ih.2 (hrest h); omega⟩

/-- A text without a comment is kept as it is. -/
theorem stripComments_eq_self_of_not_commented {s : List Char} (h : ¬ Commented s) :
    stripComments s = s := by
  fun_induction stripComments s with
  | case1 => rfl
  | case2 rest after hend =>
      exact absurd (commented_cons_iff.mpr (.inl ⟨rest, rfl, infix_of_afterCommentEnd? hend⟩)) h
  | case3 rest _ ih => rw [ih fun hrest => h (commented_cons_iff.mpr (.inr hrest))]
  | case4 c rest _ ih => rw [ih fun hrest => h (commented_cons_iff.mpr (.inr hrest))]

/-! ### Sections -/

/-- Lines that begin no section go to the piece in front. -/
theorem chunks_append_of_forall {xs : List (List Char)}
    (h : ∀ line ∈ xs, Line.isSectionDelimiter line = false) (ys : List (List Char)) :
    chunks (xs ++ ys) = (xs ++ (chunks ys).1, (chunks ys).2) := by
  induction xs with
  | nil => rfl
  | cons line xs ih =>
      have hline := h line List.mem_cons_self
      have hxs := ih fun l hl => h l (List.mem_cons_of_mem _ hl)
      simp [chunks, hline, hxs]

/-- Cutting lines into pieces loses none of them. -/
theorem flatten_chunks (lines : List (List Char)) :
    (chunks lines).1 ++ (chunks lines).2.flatten = lines := by
  induction lines with
  | nil => rfl
  | cons line rest ih =>
      cases hline : Line.isSectionDelimiter line with
      | true => simp [chunks, hline, ih]
      | false => simp [chunks, hline, ih]

/-- The sections of a document hold no more than what is left of it without its comments. -/
theorem unlines_split_sublist (s : List Char) :
    (unlines ((split s).map (·.text))).Sublist (stripComments s) := by
  generalize hkept : (Text.lines (stripComments s)).filter (!Line.isComment ·) = kept
  generalize hpieces : ((chunks kept).1 :: (chunks kept).2).filter
    (·.any (!Text.isBlankText ·)) = pieces
  have htexts : (split s).map (·.text) = pieces.map unlines := by
    simp only [split, hkept, hpieces]
    exact List.ext_getElem (by simp) (by simp)
  have hne : ∀ piece ∈ pieces, piece ≠ [] := by
    rintro piece hpiece rfl
    rw [← hpieces] at hpiece
    exact absurd (List.mem_filter.mp hpiece).2 (by simp)
  -- the stages leave out lines: empty pieces, and comments on lines
  have hfilter : pieces.flatten.Sublist kept := by
    rw [← flatten_chunks kept, ← List.flatten_cons, ← hpieces]
    exact List.filter_sublist.flatten
  have hlines : pieces.flatten.Sublist (Text.lines (stripComments s)) := by
    rw [← hkept] at hfilter
    exact hfilter.trans List.filter_sublist
  rw [htexts, ← Text.unlines_flatten hne]
  exact (Text.unlines_sublist hlines).trans (Text.unlines_lines_sublist _)

/-- The text of a section: its first line begins a section and no other one does, and no line is a
comment.  It holds no carriage return and does not end with the end of a line. -/
structure IsSectionText (text : List Char) : Prop where
  noReturn : '\r' ∉ text
  noFeedAtEnd : text.getLast? ≠ some '\n'
  delimited : ∃ first rest, Text.lines text = first :: rest ∧
    Line.isSectionDelimiter first = true ∧ ∀ line ∈ rest, Line.isSectionDelimiter line = false
  noComment : ∀ line ∈ Text.lines text, Line.isComment line = false

namespace IsSectionText

theorem ne_nil {text : List Char} (h : IsSectionText text) : text ≠ [] := by
  rintro rfl
  obtain ⟨first, rest, hlines, -⟩ := h.delimited
  exact absurd hlines (by simp [Text.lines, Text.linesOfPieces])

theorem lines_eq {text : List Char} (h : IsSectionText text) :
    Text.lines text = text.splitOn '\n' :=
  Text.lines_eq_splitOn h.ne_nil h.noReturn h.noFeedAtEnd

theorem unlines_lines {text : List Char} (h : IsSectionText text) :
    unlines (Text.lines text) = text := by
  rw [h.lines_eq, Text.unlines_splitOn]

/-- The lines of a section stay together, and those behind them belong to other sections. -/
theorem chunks_append {text : List Char} (h : IsSectionText text) {lines : List (List Char)}
    (hlines : (chunks lines).1 = []) :
    chunks (Text.lines text ++ lines) = ([], Text.lines text :: (chunks lines).2) := by
  obtain ⟨first, rest, htext, hfirst, hrest⟩ := h.delimited
  rw [htext, List.cons_append, chunks, chunks_append_of_forall hrest, hlines]
  simp [hfirst]

theorem not_blank {text : List Char} (h : IsSectionText text) :
    (Text.lines text).any (!Text.isBlankText ·) = true := by
  obtain ⟨first, rest, htext, hfirst, -⟩ := h.delimited
  rw [htext, List.any_cons, Bool.or_eq_true]
  refine .inl ?_
  cases hblank : Text.isBlankText first with
  | false => rfl
  | true =>
      have hhead := Line.head?_trim_of_isSectionDelimiter hfirst
      rw [Text.trim_eq_nil_iff.mpr hblank] at hhead
      exact absurd hhead (by simp)

theorem kindOf_lines {text : List Char} (h : IsSectionText text) :
    kindOf (Text.lines text) = .request := by
  obtain ⟨first, rest, htext, hfirst, -⟩ := h.delimited
  obtain ⟨tail, hhead⟩ :=
    List.head?_eq_some_iff.mp (Line.head?_trim_of_isSectionDelimiter hfirst)
  simp [kindOf, htext, hhead]

end IsSectionText

/-- Lines of the texts of sections are the lines of the document. -/
theorem lines_unlines_texts {texts : List (List Char)} (h : ∀ text ∈ texts, IsSectionText text) :
    Text.lines (unlines texts) = texts.flatMap Text.lines := by
  by_cases hnil : texts = []
  · subst hnil
    rfl
  · have hlines : texts.flatMap Text.lines = texts.flatMap (·.splitOn '\n') := by
      rw [List.flatMap_def, List.map_congr_left fun text htext => (h text htext).lines_eq,
        List.flatMap_def]
    rw [hlines, ← Text.splitOn_unlines hnil]
    refine Text.lines_eq_splitOn (Text.unlines_ne_nil hnil fun t ht => (h t ht).ne_nil) ?_ ?_
    · intro hreturn
      rcases Text.mem_unlines hreturn with hfeed | ⟨text, htext, hmem⟩
      · exact absurd hfeed (by decide)
      · exact (h text htext).noReturn hmem
    · refine Text.getLast?_unlines_ne (fun text htext => (h text htext).noFeedAtEnd) fun hlast => ?_
      exact (h [] (List.mem_of_getLast? hlast)).ne_nil rfl

theorem chunks_texts {texts : List (List Char)} (h : ∀ text ∈ texts, IsSectionText text) :
    chunks (texts.flatMap Text.lines) = ([], texts.map Text.lines) := by
  induction texts with
  | nil => rfl
  | cons text texts ih =>
      have hrest := ih fun t ht => h t (List.mem_cons_of_mem _ ht)
      rw [List.flatMap_cons, (h text List.mem_cons_self).chunks_append (by rw [hrest]), hrest]
      rfl

/-- **Separation**: a document put together from the texts of sections falls into these sections
exactly when no comment is found in it. -/
theorem split_unlines_eq_iff {texts : List (List Char)}
    (h : ∀ text ∈ texts, IsSectionText text) :
    split (unlines texts) = texts.mapIdx (fun index text => ⟨index, .request, text⟩) ↔
      ¬ Commented (unlines texts) := by
  constructor
  · -- a comment would take characters away that the sections do not lack
    intro hsplit hcomment
    have htexts : (split (unlines texts)).map (·.text) = texts := by
      rw [hsplit]
      exact List.ext_getElem (by simp) (by simp)
    have hle := (unlines_split_sublist (unlines texts)).length_le
    have hlt := (length_stripComments (unlines texts)).2 hcomment
    rw [htexts] at hle
    omega
  · intro hcomment
    have hkept : (texts.flatMap Text.lines).filter (!Line.isComment ·) =
        texts.flatMap Text.lines := by
      refine List.filter_eq_self.mpr fun line hline => ?_
      obtain ⟨text, htext, hline⟩ := List.mem_flatMap.mp hline
      simp [(h text htext).noComment line hline]
    -- what stands in front of the first delimiter is empty, and no section is blank
    have hpieces : (([] : List (List Char)) :: texts.map Text.lines).filter
        (·.any (!Text.isBlankText ·)) = texts.map Text.lines := by
      rw [List.filter_cons_of_neg (by simp)]
      refine List.filter_eq_self.mpr fun lines hlines => ?_
      obtain ⟨text, htext, rfl⟩ := List.mem_map.mp hlines
      exact (h text htext).not_blank
    rw [split, stripComments_eq_self_of_not_commented hcomment, lines_unlines_texts h, hkept,
      chunks_texts h]
    simp only [hpieces]
    refine List.ext_getElem (by simp) fun index hindex _ => ?_
    have hlt : index < texts.length := by simpa using hindex
    have htext := h texts[index] (List.getElem_mem hlt)
    simp [htext.kindOf_lines, htext.unlines_lines]

/-! ### Media ranges -/

/-- The marks of comments in a text stand in media ranges: a start has a star in front of it, and an
end has one behind it. -/
structure MarksInRanges (s : List Char) : Prop where
  start : ∀ before after, s = before ++ '/' :: '*' :: after → before.getLast? = some '*'
  stop : ∀ before after, s = before ++ '*' :: '/' :: after → after.head? = some '*'

theorem marksInRanges_iff {s : List Char} :
    MarksInRanges s ↔ ∀ i < s.length,
      ((s.drop i).take 2 = ['/', '*'] → (s.take i).getLast? = some '*') ∧
        ((s.drop i).take 2 = ['*', '/'] → (s.drop (i + 2)).head? = some '*') := by
  constructor
  · intro h i _
    have hs : ∀ pair, (s.drop i).take 2 = pair → s = s.take i ++ (pair ++ s.drop (i + 2)) := by
      rintro _ rfl
      rw [← List.drop_drop, List.take_append_drop, List.take_append_drop]
    exact ⟨fun hpair => h.start _ _ (hs _ hpair), fun hpair => h.stop _ _ (hs _ hpair)⟩
  · intro h
    constructor
    · rintro before after rfl
      simpa using (h before.length (by simp)).1 (by simp)
    · rintro before after rfl
      simpa [List.drop_append] using (h before.length (by simp)).2 (by simp)

instance (s : List Char) : Decidable (MarksInRanges s) :=
  decidable_of_iff _ marksInRanges_iff.symm

/-- Two media ranges that stand apart. -/
def TwoRanges (s : List Char) : Prop :=
  ∃ before between after, s = before ++ "*/*".toList ++ between ++ "*/*".toList ++ after

namespace MarksInRanges

/-- The marks in two texts with the end of a line between them are those of the two. -/
theorem append_feed {s t : List Char} (hs : MarksInRanges s) (ht : MarksInRanges t) :
    MarksInRanges (s ++ '\n' :: t) where
  start before after h := by
    rcases Text.pair_append_cons (by decide) (by decide) h with ⟨y, hy, -⟩ | ⟨x, hx, rfl⟩
    · exact hs.start before y hy
    · -- a star is in front of the mark, so the end of the line is not
      have hstar := ht.start x after hx
      rw [List.getLast?_append, List.getLast?_cons, hstar]
      rfl
  stop before after h := by
    rcases Text.pair_append_cons (by decide) (by decide) h with ⟨y, hy, rfl⟩ | ⟨x, hx, -⟩
    · rw [List.head?_append, hs.stop before y hy]
      rfl
    · exact ht.stop x after hx

theorem nil : MarksInRanges [] where
  start before after h := by simp at h
  stop before after h := by simp at h

theorem unlines {texts : List (List Char)} (h : ∀ text ∈ texts, MarksInRanges text) :
    MarksInRanges (Text.unlines texts) := by
  induction texts with
  | nil => exact nil
  | cons text texts ih =>
      have htext := h text List.mem_cons_self
      have hrest := ih fun t ht => h t (List.mem_cons_of_mem _ ht)
      by_cases hnil : texts = []
      · subst hnil
        simpa [Text.unlines] using htext
      · rw [Text.unlines_cons_of_ne_nil text hnil]
        exact htext.append_feed hrest

/-- Where marks stand in media ranges, two ranges that stand apart are the ends of a comment. -/
theorem commented_iff {s : List Char} (h : MarksInRanges s) : Commented s ↔ TwoRanges s := by
  constructor
  · rintro ⟨before, inside, after, hs⟩
    obtain ⟨front, rfl⟩ := List.getLast?_eq_some_iff.mp
      (h.start before (inside ++ "*/".toList ++ after) (by simpa using hs))
    obtain ⟨tail, rfl⟩ := List.head?_eq_some_iff.mp
      (h.stop (front ++ ['*'] ++ "/*".toList ++ inside) after (by simpa using hs))
    exact ⟨front, inside, tail, by simpa using hs⟩
  · rintro ⟨before, between, after, hs⟩
    exact ⟨before ++ ['*'], between, '*' :: after, by simpa using hs⟩

end MarksInRanges

/-- **Media ranges and sections**: where the marks of comments stand in media ranges only, the texts
of sections are given back, one section for each of them in order, exactly when no two media ranges
stand apart in the whole document. -/
theorem split_eq_iff_not_twoRanges {texts : List (List Char)}
    (h : ∀ text ∈ texts, IsSectionText text) (hmarks : ∀ text ∈ texts, MarksInRanges text) :
    split (unlines texts) = texts.mapIdx (fun index text => ⟨index, .request, text⟩) ↔
      ¬ TwoRanges (unlines texts) := by
  rw [split_unlines_eq_iff h, (MarksInRanges.unlines hmarks).commented_iff]

/-- One media range is no comment: the two sections stay apart. -/
theorem split_one_mediaRange :
    let texts := ["### a\nGET http://h/a\nAccept: */*".toList, "### b\nGET http://h/b".toList]
    (∀ text ∈ texts, IsSectionText text ∧ MarksInRanges text) ∧
      split (unlines texts) = texts.mapIdx fun index text => ⟨index, .request, text⟩ := by
  intro texts
  have htexts : ∀ text ∈ texts, IsSectionText text ∧ MarksInRanges text := by
    have ha : IsSectionText "### a\nGET http://h/a\nAccept: */*".toList :=
      ⟨by decide, by decide, ⟨_, _, rfl, by decide, by decide⟩, by decide⟩
    have hb : IsSectionText "### b\nGET http://h/b".toList :=
      ⟨by decide, by decide, ⟨_, _, rfl, by decide, by decide⟩, by decide⟩
    simpa [texts] using ⟨⟨ha, by decide⟩, ⟨hb, by decide⟩⟩
  refine ⟨htexts, (split_eq_iff_not_twoRanges (fun t ht => (htexts t ht).1)
    fun t ht => (htexts t ht).2).mpr ?_⟩
  rintro ⟨before, between, after, h⟩
  -- there would be four stars
  have hcount := congrArg (List.count '*') h
  simp only [List.count_append] at hcount
  have hmarks : (unlines texts).count '*' = 2 ∧ "*/*".toList.count '*' = 2 := by decide
  omega

/-- The media ranges of two sections are the ends of a comment: the delimiter between them is lost,
and one section is left of the two. -/
theorem split_two_mediaRanges :
    let texts := ["### a\nGET http://h/a\nAccept: */*".toList,
      "### b\nGET http://h/b\nAccept: */*".toList]
    (∀ text ∈ texts, IsSectionText text ∧ MarksInRanges text) ∧
      split (unlines texts) = [⟨0, .request, "### a\nGET http://h/a\nAccept: **".toList⟩] ∧
      split (unlines texts) ≠ texts.mapIdx fun index text => ⟨index, .request, text⟩ := by
  intro texts
  have ha : IsSectionText "### a\nGET http://h/a\nAccept: */*".toList :=
    ⟨by decide, by decide, ⟨_, _, rfl, by decide, by decide⟩, by decide⟩
  have hb : IsSectionText "### b\nGET http://h/b\nAccept: */*".toList :=
    ⟨by decide, by decide, ⟨_, _, rfl, by decide, by decide⟩, by decide⟩
  have hsplit : split (unlines texts) =
      [⟨0, .request, "### a\nGET http://h/a\nAccept: **".toList⟩] := by
    decide +kernel
  refine ⟨by simpa [texts] using ⟨⟨ha, by decide⟩, ⟨hb, by decide⟩⟩, hsplit, ?_⟩
  rw [hsplit]
  decide

end Section

end HttpSuite
