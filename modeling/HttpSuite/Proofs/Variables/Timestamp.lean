/-
HttpSuite/Proofs/Variables/Timestamp.lean

Timestamps with an offset.  The expression

    $timestamp n unit

is a word and the words of an offset, or its one word if there is no blank in front of the unit.
They are put together again with a blank between them, and what the offset leads to is counted in
whole seconds.  The clock has whole milliseconds, of which each offset is a number, and the calendar
starts and ends with one, so that the rest of a millisecond does not matter anywhere.

Main result: an offset leads to the exact second, or nowhere; it never wraps around
(`timestamp_offset`).
-/
import HttpSuite.Proofs.Calendar
import HttpSuite.Proofs.Variables.Arguments
import HttpSuite.Proofs.Variables.Offset
import HttpSuite.Variables.Generator

namespace HttpSuite

/-! ### Plain texts -/

/-- A text that can stand in an argument as it is: it has neither blanks nor quotes. -/
structure IsPlain (s : List Char) : Prop where
  ne_nil : s ≠ []
  notBlank : ∀ c ∈ s, Text.isBlank c = false
  notQuote : ∀ c ∈ s, Arguments.isQuote c = false

theorem IsPlain.of_toNat {s : List Char} (hne : s ≠ [])
    (h : ∀ c ∈ s, 43 ≤ c.toNat ∧ c.toNat ≤ 122) : IsPlain s := by
  refine ⟨hne, ?_, ?_⟩
  · intro c hc
    obtain ⟨hlow, hhigh⟩ := h c hc
    apply Text.isBlank_of_toNat
    · omega
    · omega
  · intro c hc
    have hrange := h c hc
    rw [← Bool.not_eq_true, Arguments.isQuote, Bool.or_eq_true, beq_iff_eq, beq_iff_eq]
    rintro (rfl | rfl)
    · exact absurd hrange (by decide)
    · exact absurd hrange (by decide)

theorem Numeral.isPlain {n : Int} {number : String} (h : Numeral n number) :
    IsPlain number.toList := by
  obtain ⟨-, sign, digits, hnumber, hsign, hdigits, hall⟩ := h.exists_digits
  rw [hnumber]
  apply IsPlain.of_toNat
  · simp [hdigits]
  · intro c hc
    rcases List.mem_append.mp hc with hc | hc
    · have hcode := TimeOffset.isSign_iff.mp (hsign c hc)
      omega
    · have hcode := Ascii.isDigit_iff.mp (hall c hc)
      omega

theorem TimeUnit.Means.isPlain {name : String} {extent : Extent} (h : Means name extent) :
    IsPlain name.toList := by
  obtain ⟨hne, hletters⟩ := h.letters
  apply IsPlain.of_toNat hne
  intro c hc
  have hcode := Ascii.isLetter_iff.mp (hletters c hc)
  omega

section

variable {s t : List Char} (hs : IsPlain s) (ht : IsPlain t)
include hs ht

/-- What stands between two plain texts has no blanks around it. -/
theorem IsPlain.trim_append (middle : List Char) :
    Text.trim (s ++ middle ++ t) = s ++ middle ++ t := by
  rw [Text.trim_eq_self_iff]
  constructor
  · intro c hc
    obtain ⟨a, s, rfl⟩ := List.exists_cons_of_ne_nil hs.ne_nil
    exact hs.notBlank c (List.mem_of_head? hc)
  · intro c hc
    obtain ⟨a, t, rfl⟩ := List.exists_cons_of_ne_nil ht.ne_nil
    rw [List.getLast?_append, List.getLast?_cons, Option.some_or] at hc
    exact ht.notBlank c (List.mem_of_getLast? (List.getLast?_cons.trans hc))

/-- Two plain texts with blanks or none of them between them are kept apart by a blank or none. -/
theorem Generators.joinArguments_words {gap : List Char} (hgap : ∀ b ∈ gap, Text.isBlank b = true) :
    ∃ gap', (∀ b ∈ gap', Text.isBlank b = true) ∧
      joinArguments (Text.words (s ++ gap ++ t)) = s ++ gap' ++ t := by
  cases gap with
  | nil =>
      -- without a blank in between there is one argument, to which nothing is added
      have hone : Text.words (s ++ [] ++ t) = [s ++ [] ++ t] := by
        rw [List.append_nil]
        apply Text.words_eq_singleton
        · simp [hs.ne_nil]
        · exact List.forall_mem_append.mpr ⟨hs.notBlank, ht.notBlank⟩
      refine ⟨[], by simp, ?_⟩
      rw [hone, joinArguments, List.intercalate_singleton, hs.trim_append ht]
  | cons b gap =>
      obtain ⟨hb, hgap⟩ := List.forall_mem_cons.mp hgap
      have htwo : Text.words (s ++ b :: gap ++ t) = [s, t] := by
        rw [List.append_assoc, List.cons_append, Text.words_append_cons hs.ne_nil hs.notBlank hb,
          Text.words_blank_append (List.all_eq_true.mpr hgap), Text.words_eq_singleton ht.ne_nil ht.notBlank]
      refine ⟨[' '], List.all_eq_true.mp rfl, ?_⟩
      rw [htwo, joinArguments, List.intercalate_cons_cons, List.intercalate_singleton,
        hs.trim_append ht]

end

/-! ### Seconds -/

open Calendar (MonthsLater minInstant endInstant)

/-- The seconds a length of time after a number of nanoseconds: what is cut off from these to whole
milliseconds does not count for them, nor for the range of the calendar. -/
theorem Extent.seconds_after?_length (millis c : Int) :
    (((length millis).after? (c / 1000000)).map fun instant => toString (instant / 1000)) =
      if millis.natAbs ≤ 2 ^ 63 - 1 ∧ minInstant * 1000000 ≤ c + millis * 1000000 ∧
          c + millis * 1000000 < endInstant * 1000000 then
        some (toString ((c + millis * 1000000) / 1000000000))
      else none := by
  have hseconds : (c / 1000000 + millis) / 1000 = (c + millis * 1000000) / 1000000000 := by omega
  rw [after?, Calendar.within?]
  by_cases hbound : millis.natAbs ≤ 2 ^ 63 - 1
  · by_cases hinside : minInstant ≤ c / 1000000 + millis ∧ c / 1000000 + millis < endInstant
    · rw [if_pos hbound, if_pos hinside, if_pos ⟨hbound, by omega, by omega⟩, Option.map_some,
        hseconds]
    · rw [if_pos hbound, if_neg hinside, if_neg fun h => hinside ⟨by omega, by omega⟩,
        Option.map_none]
  · rw [if_neg hbound, if_neg fun h => hbound h.1, Option.map_none]

/-- The seconds a number of months after an instant. -/
theorem Extent.seconds_after?_months_iff {count instant : Int} {text : String} :
    (((months count).after? instant).map fun instant => toString (instant / 1000)) = some text ↔
      count.natAbs < 2 ^ 32 ∧ ∃ later, MonthsLater instant count later ∧ minInstant ≤ later ∧
        later < endInstant ∧ toString (later / 1000) = text := by
  rw [after?, Option.map_eq_some_iff]
  constructor
  · rintro ⟨later, hlater, htext⟩
    obtain ⟨hbound, hshift⟩ := Option.ite_none_right_eq_some.mp hlater
    obtain ⟨hmonths, hlow, hhigh⟩ := Calendar.shiftMonths?_eq_some_iff.mp hshift
    exact ⟨hbound, later, hmonths, hlow, hhigh, htext⟩
  · rintro ⟨hbound, later, hmonths, hlow, hhigh, htext⟩
    refine ⟨later, Option.ite_none_right_eq_some.mpr ⟨hbound, ?_⟩, htext⟩
    exact Calendar.shiftMonths?_eq_some_iff.mpr ⟨hmonths, hlow, hhigh⟩

/-! ### Expressions -/

/-- The outside at a number of nanoseconds since the start of 1970, of which the clock shows the
whole milliseconds. -/
def World.atNanos (w : World) (c : Int) : World := { w with now := c / 1000000 }

namespace Generators

open TimeUnit (Means)
open TimeOffset (Writes)

variable (g : Generators) (w : World) {n : Int64} {name offset : String} {extent : Extent}

/-- An offset leads as far as its unit so many times. -/
theorem evaluate_timestamp (hname : Means name extent) (hoffset : Writes n name offset) :
    g.evaluate w ("$timestamp " ++ offset) =
      (((extent.times n.toInt).after? w.now).map fun instant => toString (instant / 1000), g) := by
  obtain @⟨number, gap, hn, hgap⟩ := hoffset
  obtain ⟨gap', hgap', hjoin⟩ := joinArguments_words hn.isPlain hname.isPlain hgap
  obtain ⟨unit, rfl, htext⟩ := TimeOffset.ofText?_append hn hgap' hname
  obtain ⟨l, hl⟩ : ∃ l, l = number.toList ++ gap.toList ++ name.toList := ⟨_, rfl⟩
  have hquote : ∀ c ∈ "timestamp".toList ++ ' ' :: l, Arguments.isQuote c = false := by
    rw [hl]
    refine List.forall_mem_append.mpr
      ⟨Text.eq_false_of_any rfl, List.forall_mem_cons.mpr ⟨rfl, ?_⟩⟩
    refine List.forall_mem_append.mpr ⟨List.forall_mem_append.mpr ⟨hn.isPlain.notQuote, ?_⟩,
      hname.isPlain.notQuote⟩
    exact fun b hb => Arguments.isQuote_of_blank (hgap b hb)
  have hsplit : Arguments.split ("timestamp".toList ++ ' ' :: l) =
      "timestamp".toList :: Text.words l := by
    rw [Arguments.split_eq_words hquote]
    exact Text.words_append_cons (by decide) (Text.isBlank_eq_false_of_any rfl) rfl l
  have htrim : Text.trim ("$timestamp " ++ (number ++ gap ++ name)).toList =
      '$' :: ("timestamp".toList ++ ' ' :: l) := by
    have hdollar : IsPlain "$timestamp".toList :=
      ⟨by decide, Text.eq_false_of_any rfl, Text.eq_false_of_any rfl⟩
    have hwhole := hdollar.trim_append hname.isPlain (' ' :: (number.toList ++ gap.toList))
    rw [String.toList_append, String.toList_append, String.toList_append, hl]
    simpa using hwhole
  have hshifted : shifted w (Text.words l) =
      ((unit.extent.times n.toInt).after? w.now) := by
    obtain ⟨c, rest, hcons⟩ := List.exists_cons_of_ne_nil hn.isPlain.ne_nil
    rw [shifted, hl, hjoin]
    rw [hcons] at htext ⊢
    show (TimeOffset.ofText? (c :: rest ++ gap' ++ name.toList)).bind (·.shift? w.now) = _
    rw [htext, Option.bind_some, TimeOffset.shift?_eq]
  -- the first word is the name of the generator, all others make up the offset
  rw [evaluate, htrim]
  simp only [hsplit]
  show (timestamp w (Text.words l), g) = _
  rw [timestamp, hshifted]
  simp (disch := decide) only [Int.fdiv_eq_ediv_of_nonneg]

/-- **Offsets are exact and never wrap**, at any number of nanoseconds `c` and for any amount of 64
bits. A unit of fixed length leads to the seconds of the instant that lies so many units further on,
and nowhere if 64 bits cannot count the milliseconds of this length in both directions or if the
calendar does not reach the instant. Months lead along the calendar, and nowhere if their number
does not have 32 bits besides its sign or if the calendar does not reach so far. And offsets of the
same extent, such as a number of weeks and seven times as many days, lead to the same text. -/
theorem timestamp_offset (hoffset : Writes n name offset) (c : Int) :
    (∀ length, Means name (.length length) →
      g.evaluate (w.atNanos c) ("$timestamp " ++ offset) =
        (if (n.toInt * length).natAbs ≤ 2 ^ 63 - 1 ∧
            minInstant * 1000000 ≤ c + n.toInt * length * 1000000 ∧
            c + n.toInt * length * 1000000 < endInstant * 1000000 then
          some (toString ((c + n.toInt * length * 1000000) / 1000000000))
        else none, g)) ∧
    (∀ count, Means name (.months count) → ∃ result,
      g.evaluate (w.atNanos c) ("$timestamp " ++ offset) = (result, g) ∧
        ∀ text, result = some text ↔ (n.toInt * count).natAbs < 2 ^ 32 ∧
          ∃ later, MonthsLater (c / 1000000) (n.toInt * count) later ∧
            minInstant ≤ later ∧ later < endInstant ∧ toString (later / 1000) = text) ∧
    ∀ extent n' name' offset' extent', Means name extent → Means name' extent' →
      Writes n' name' offset' → extent.times n.toInt = extent'.times n'.toInt →
        g.evaluate (w.atNanos c) ("$timestamp " ++ offset) =
          g.evaluate (w.atNanos c) ("$timestamp " ++ offset') := by
  refine ⟨?_, ?_, ?_⟩
  · intro length hname
    rw [evaluate_timestamp g _ hname hoffset]
    apply congrArg (·, g)
    exact Extent.seconds_after?_length (n.toInt * length) c
  · intro count hname
    refine ⟨_, evaluate_timestamp g _ hname hoffset, ?_⟩
    intro text
    exact Extent.seconds_after?_months_iff
  · intro extent n' name' offset' extent' hname hname' hoffset' hsame
    rw [evaluate_timestamp g _ hname hoffset, evaluate_timestamp g _ hname' hoffset', hsame]

/-- At half past ten on the 31st of January 2024, an hour leads to half past eleven, a month to the
29th of February, and a week back to where seven days back lead. -/
theorem timestamp_offset_january :
    (evaluate {} (World.atNanos {} 1706697000987654321) "$timestamp 1 hour").1 =
        some "1706700600" ∧
      (evaluate {} (World.atNanos {} 1706697000987654321) "$timestamp 1M").1 = some "1709202600" ∧
      evaluate {} (World.atNanos {} 1706697000987654321) "$timestamp -1Week" =
        evaluate {} (World.atNanos {} 1706697000987654321) "$timestamp -7 d" := by
  have hour : Writes 1 "hour" "1 hour" :=
    @Writes.intro 1 "hour" "1" " " .plain (List.all_eq_true.mp rfl)
  have month : Writes 1 "M" "1M" := @Writes.intro 1 "M" "1" "" .plain (List.all_eq_true.mp rfl)
  have week : Writes (-1) "Week" "-1Week" :=
    @Writes.intro (-1) "Week" "-1" "" .plain (List.all_eq_true.mp rfl)
  have days : Writes (-7) "d" "-7 d" :=
    @Writes.intro (-7) "d" "-7" " " .plain (List.all_eq_true.mp rfl)
  have hweek : Means "Week" (.length 604800000) :=
    @Means.named "Week" ["w", "week", "weeks"] _ (by decide) (by decide) (by decide)
  have hday : Means "d" (.length 86400000) :=
    @Means.named "d" ["d", "day", "days"] _ (by decide) (by decide) (by decide)
  have hhour : Means "hour" (.length 3600000) :=
    @Means.named "hour" ["h", "hour", "hours"] _ (by decide) (by decide) (by decide)
  refine ⟨?_, ?_, ?_⟩
  · have h := (timestamp_offset {} {} hour 1706697000987654321).1 _ hhour
    refine (congrArg Prod.fst h).trans ?_
    decide
  · obtain ⟨result, h, htext⟩ :=
      (timestamp_offset {} {} month 1706697000987654321).2.1 1 (.month rfl)
    refine (congrArg Prod.fst h).trans ((htext _).mpr ⟨by decide, 1709202600987, ?_⟩)
    exact ⟨⟨by decide, by decide, by decide⟩, by decide, by decide, by decide⟩
  · exact (timestamp_offset {} {} week 1706697000987654321).2.2 _ _ _ _ _ hweek hday days
      (by decide)

end Generators

end HttpSuite
