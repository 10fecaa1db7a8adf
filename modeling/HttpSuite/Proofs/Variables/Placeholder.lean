/-
HttpSuite/Proofs/Variables/Placeholder.lean

Where the placeholders of a text are.  `pieces` finds them from left to right and goes on behind
each, so what it finds at one place seems to depend on all that stands in front.  It does not: names
hold no braces, and so no two placeholders overlap.  A name between its braces is a hole wherever it
stands,

    pieces (a ++ spellHole n ++ b) = pieces a ++ .hole n :: pieces b

(`pieces_append_hole`), and it never stands there as mere characters (`pieces_ne_chars`).
-/
import HttpSuite.Variables.State

namespace HttpSuite

namespace HoleStyle

variable {style : HoleStyle}

theorem pieces_of_holeAt {s name after : List Char} (h : style.holeAt s = some (name, after)) :
    style.pieces s = .hole name :: style.pieces after := by
  cases s with
  | nil => exact absurd (style.length_lt_of_holeAt h) (by simp)
  | cons c rest =>
      rw [pieces]
      split
      · rename_i hnone
        rw [h] at hnone
        exact absurd hnone (by simp)
      · rename_i name' after' hsome
        rw [h] at hsome
        obtain ⟨rfl, rfl⟩ := by simpa only [Option.some.injEq, Prod.mk.injEq] using hsome
        rfl

theorem pieces_of_not_holeAt {c : Char} {rest : List Char} (h : style.holeAt (c :: rest) = none) :
    style.pieces (c :: rest) = .char c :: style.pieces rest := by
  rw [pieces]
  split
  · rfl
  · rename_i hsome
    rw [h] at hsome
    exact absurd hsome (by simp)

/-- What stands behind some pieces of a text has the rest of them for its pieces. -/
theorem pieces_flatMap_spell {s : List Char} {before after : List Piece}
    (h : style.pieces s = before ++ after) : style.pieces (after.flatMap style.spell) = after := by
  induction before generalizing s with
  | nil =>
      rw [List.nil_append] at h
      rw [← h, style.spell_pieces, h]
  | cons piece before ih =>
      cases s with
      | nil => simp [pieces] at h
      | cons c rest =>
          cases hhole : style.holeAt (c :: rest) with
          | none =>
              rw [pieces_of_not_holeAt hhole] at h
              exact ih (List.cons.inj h).2
          | some found =>
              rw [pieces_of_holeAt hhole] at h
              exact ih (List.cons.inj h).2

end HoleStyle

namespace Placeholder

open HoleStyle

/-- A name that a placeholder can have. -/
structure IsName (name : List Char) : Prop where
  noOpening : '\x7b' ∉ name
  noClosing : '\x7d' ∉ name
  ends : placeholder.isName name = true

theorem IsName.ne_nil {name : List Char} (h : IsName name) : name ≠ [] := by
  rintro rfl
  exact absurd h.ends (by decide)

theorem spellHole_eq (name : List Char) :
    placeholder.spellHole name = '\x7b' :: '\x7b' :: (name ++ ['\x7d', '\x7d']) :=
  rfl

/-- A hole is found where a name stands between its braces, and only there. -/
theorem holeAt_eq_some_iff {s name after : List Char} :
    placeholder.holeAt s = some (name, after) ↔
      IsName name ∧ s = placeholder.spellHole name ++ after := by
  constructor
  · intro h
    refine ⟨?_, placeholder.eq_of_holeAt h⟩
    simp only [HoleStyle.holeAt] at h
    split at h
    · simp at h
    · rename_i rest _
      split at h
      · rename_i hname
        obtain ⟨_, _, hfound⟩ := Option.map_eq_some_iff.mp h
        obtain ⟨rfl, -⟩ := Prod.mk.inj hfound
        -- the characters of a name are those up to the first brace
        have hchars : ∀ c ∈ rest.takeWhile placeholder.nameChar, placeholder.nameChar c = true :=
          List.all_eq_true.mp List.all_takeWhile
        exact ⟨fun hc => absurd (hchars _ hc) (by decide),
          fun hc => absurd (hchars _ hc) (by decide), hname⟩
      · simp at h
  · rintro ⟨hname, rfl⟩
    have hchars : ∀ c ∈ name, placeholder.nameChar c = true := by
      intro c hc
      have hopening : c ≠ '\x7b' := fun h => hname.noOpening (h ▸ hc)
      have hclosing : c ≠ '\x7d' := fun h => hname.noClosing (h ▸ hc)
      simp [placeholder, hopening, hclosing]
    have hstart : Text.stripStart? placeholder.opening (placeholder.spellHole name ++ after) =
        some (name ++ ('\x7d' :: '\x7d' :: after)) := by
      rw [Text.stripStart?_eq_some, spellHole_eq]
      simp [placeholder]
    have htake : (name ++ '\x7d' :: '\x7d' :: after).takeWhile placeholder.nameChar = name := by
      rw [List.takeWhile_append_of_pos hchars, List.takeWhile_cons_of_neg (by decide),
        List.append_nil]
    have hdrop : (name ++ '\x7d' :: '\x7d' :: after).dropWhile placeholder.nameChar =
        '\x7d' :: '\x7d' :: after := by
      rw [List.dropWhile_append_of_pos hchars, List.dropWhile_cons_of_neg (by decide)]
    have hclose : Text.stripStart? placeholder.closing ('\x7d' :: '\x7d' :: after) = some after :=
      rfl
    simp only [HoleStyle.holeAt, hstart, htake, hdrop, hname.ends, hclose, if_true, Option.map_some]

theorem holeAt_spellHole {name : List Char} (h : IsName name) (after : List Char) :
    placeholder.holeAt (placeholder.spellHole name ++ after) = some (name, after) :=
  holeAt_eq_some_iff.mpr ⟨h, rfl⟩

/-- The holes of a text have names. -/
theorem isName_of_mem_pieces {s name : List Char} (h : .hole name ∈ placeholder.pieces s) :
    IsName name := by
  fun_induction HoleStyle.pieces placeholder s with
  | case1 => simp at h
  | case2 c rest _ ih =>
      exact ih (by simpa using h)
  | case3 c rest name' after hfound _ ih =>
      rcases List.mem_cons.mp h with h | h
      · obtain rfl : name = name' := by simpa using h
        exact (holeAt_eq_some_iff.mp hfound).1
      · exact ih h

/-! ### Placeholders do not overlap -/

/-- A placeholder that starts in a text and a later placeholder right behind that text do not meet.
-/
theorem holeAt_append_spellHole {a n : List Char} (ha : a ≠ []) (b : List Char) :
    placeholder.holeAt (a ++ (placeholder.spellHole n ++ b)) =
      (placeholder.holeAt a).map fun found =>
        (found.1, found.2 ++ (placeholder.spellHole n ++ b)) := by
  cases hfound : placeholder.holeAt a with
  | some found =>
      obtain ⟨m, after⟩ := found
      obtain ⟨hm, rfl⟩ := holeAt_eq_some_iff.mp hfound
      rw [List.append_assoc]
      exact holeAt_spellHole hm _
  | none =>
      rw [Option.map_none]
      refine Option.eq_none_iff_forall_ne_some.mpr ?_
      rintro ⟨m, after⟩ hsome
      obtain ⟨hm, heq⟩ := holeAt_eq_some_iff.mp hsome
      simp only [spellHole_eq, List.append_assoc, List.cons_append] at heq
      -- the braces behind `a` would be the second of the hole, in its name or at its end
      match a, ha with
      | [c], _ =>
          obtain ⟨x, m', rfl⟩ := List.exists_cons_of_ne_nil hm.ne_nil
          simp only [List.cons_append, List.nil_append, List.cons.injEq] at heq
          obtain ⟨-, -, rfl, -⟩ := heq
          exact hm.noOpening List.mem_cons_self
      | c :: d :: a', _ =>
          simp only [List.cons_append, List.cons.injEq] at heq
          obtain ⟨rfl, rfl, heq⟩ := heq
          rcases List.append_eq_append_iff.mp heq with ⟨w, rfl, hw⟩ | ⟨w, rfl, hw⟩
          · -- the name goes on behind `a`, and the first brace there is in it
            cases w with
            | nil => simp at hw
            | cons x w =>
                obtain rfl : '\x7b' = x := (List.cons.inj hw).1
                exact hm.noOpening (by simp)
          · -- the name ends in `a`, and with both of its braces it would be a hole of `a`
            match w with
            | [] => simp at hw
            | [x] => simp at hw
            | x :: y :: w =>
                simp only [List.nil_append, List.cons_append, List.cons.injEq] at hw
                obtain ⟨rfl, rfl, -⟩ := hw
                have hsome := holeAt_spellHole hm w
                rw [spellHole_eq] at hsome
                simp only [List.cons_append, List.append_assoc, List.nil_append] at hsome hfound
                rw [hsome] at hfound
                exact absurd hfound (by simp)

/-- **Locality**: a name between its braces is a hole, and cuts the scan of the text in two. -/
theorem pieces_append_hole {n : List Char} (hn : IsName n) (a b : List Char) :
    placeholder.pieces (a ++ (placeholder.spellHole n ++ b)) =
      placeholder.pieces a ++ .hole n :: placeholder.pieces b := by
  fun_induction HoleStyle.pieces placeholder a with
  | case1 => exact pieces_of_holeAt (holeAt_spellHole hn b)
  | case2 c rest hnone ih =>
      have hhole := holeAt_append_spellHole (n := n) (List.cons_ne_nil c rest) b
      rw [hnone, Option.map_none, List.cons_append] at hhole
      rw [List.cons_append, pieces_of_not_holeAt hhole, ih]
      rfl
  | case3 c rest name after hfound _ ih =>
      have hhole := holeAt_append_spellHole (n := n) (List.cons_ne_nil c rest) b
      rw [hfound, Option.map_some] at hhole
      rw [pieces_of_holeAt hhole, ih]
      rfl

theorem pieces_spellHole {n : List Char} (hn : IsName n) :
    placeholder.pieces (placeholder.spellHole n) = [.hole n] := by
  have h := pieces_of_holeAt (holeAt_spellHole hn [])
  rwa [List.append_nil, show placeholder.pieces [] = [] by rw [pieces]] at h

/-- A name between its braces does not stand in a text as characters. -/
theorem pieces_ne_chars {n : List Char} (hn : IsName n) {s : List Char}
    {before after : List Piece} :
    placeholder.pieces s ≠ before ++ ((placeholder.spellHole n).map .char ++ after) := by
  intro h
  -- what stands from there on starts with the name in its braces, so its first piece is the hole
  have hsuffix := pieces_flatMap_spell h
  have hspell : ∀ t : List Char, (t.map Piece.char).flatMap placeholder.spell = t := by
    intro t
    induction t with
    | nil => rfl
    | cons c t ih => simpa [spell] using ih
  rw [List.flatMap_append, hspell, pieces_of_holeAt (holeAt_spellHole hn _),
    spellHole_eq] at hsuffix
  simp at hsuffix

/-- A text that lacks one of the braces has no holes. -/
theorem pieces_eq_map_char {s : List Char} (h : '\x7b' ∉ s ∨ '\x7d' ∉ s) :
    placeholder.pieces s = s.map .char := by
  induction s with
  | nil => rw [pieces]; rfl
  | cons c rest ih =>
      have hnone : placeholder.holeAt (c :: rest) = none := by
        refine Option.eq_none_iff_forall_ne_some.mpr ?_
        rintro ⟨m, after⟩ hsome
        have heq := (holeAt_eq_some_iff.mp hsome).2
        rw [heq, spellHole_eq] at h
        simp at h
      have hrest : '\x7b' ∉ rest ∨ '\x7d' ∉ rest :=
        h.imp (fun h hc => h (List.mem_cons_of_mem _ hc)) fun h hc => h (List.mem_cons_of_mem _ hc)
      rw [pieces_of_not_holeAt hnone, ih hrest]
      rfl

end Placeholder

end HttpSuite
