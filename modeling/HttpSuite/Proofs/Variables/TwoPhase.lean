/-
HttpSuite/Proofs/Variables/TwoPhase.lean

Filling a text in two phases.  The target and the headers of a request are filled when its document
is compiled, by the overrides and the store alone, and what is left open is filled when the request
is sent; a body is filled once.  The second phase looks at all of the text that the first one left,
at the values in it, too.  So the two ways do not agree: a value that holds a placeholder is filled
again, and a value between braces can make up a placeholder with them.

Main result: `twoPhases_agree_iff` tells when they agree on every text.  This is so exactly when the
second phase changes nothing in a text that the first one has filled completely; and if no value
holds a brace, exactly when no value is a part of a name that has another text than its placeholder.
-/
import HttpSuite.Proofs.Variables.Placeholder

namespace HttpSuite

namespace Placeholder

open HoleStyle

/-! ### Filled texts -/

/-- What a piece is filled with. -/
def put (f : String → Option String) : Piece → List Char
  | .char c => [c]
  | .hole name => ((f (String.ofList name)).map String.toList).getD (placeholder.spellHole name)

/-- A text with its placeholders filled. -/
def filled (f : String → Option String) (s : List Char) : List Char :=
  (placeholder.pieces s).flatMap (put f)

/-- All placeholders of a text are known. -/
def Closed (f : String → Option String) (s : List Char) : Prop :=
  ∀ name, .hole name ∈ placeholder.pieces s → (f (String.ofList name)).isSome

variable {f g : String → Option String}

theorem toList_fill (s : String) : (placeholder.fill f s).toList = filled f s.toList := by
  rw [fill, String.toList_ofList]
  rfl

/-- An open placeholder cuts the filled text, too. -/
theorem filled_append_hole {n : List Char} (hn : IsName n) (a b : List Char) :
    filled f (a ++ (placeholder.spellHole n ++ b)) =
      filled f a ++ (put f (.hole n) ++ filled f b) := by
  rw [filled, pieces_append_hole hn, List.flatMap_append, List.flatMap_cons]
  rfl

theorem filled_eq_self {s : List Char} (h : '\x7b' ∉ s ∨ '\x7d' ∉ s) : filled f s = s := by
  rw [filled, pieces_eq_map_char h]
  induction s with
  | nil => rfl
  | cons c s ih =>
      have hs : '\x7b' ∉ s ∨ '\x7d' ∉ s :=
        h.imp (fun h hc => h (List.mem_cons_of_mem _ hc)) fun h hc => h (List.mem_cons_of_mem _ hc)
      rw [List.map_cons, List.flatMap_cons, ih hs]
      rfl

theorem filled_spellHole {n : List Char} (hn : IsName n) :
    filled f (placeholder.spellHole n) = put f (.hole n) := by
  rw [filled, pieces_spellHole hn, List.flatMap_singleton]

/-- Texts are filled alike by functions that put the same for each of their pieces. -/
theorem filled_congr {s : List Char}
    (h : ∀ piece ∈ placeholder.pieces s, put g piece = put f piece) :
    filled g s = filled f s := by
  rw [filled, filled, List.flatMap_def, List.flatMap_def, List.map_congr_left h]

/-- A text each of whose placeholders is put for itself is kept. -/
theorem filled_eq_self_of_put {s : List Char}
    (h : ∀ n, .hole n ∈ placeholder.pieces s → put f (.hole n) = placeholder.spellHole n) :
    filled f s = s :=
  calc filled f s = (placeholder.pieces s).flatMap placeholder.spell := by
        rw [filled, List.flatMap_def, List.flatMap_def]
        refine congrArg List.flatten (List.map_congr_left fun piece hpiece => ?_)
        cases piece with
        | char c => rfl
        | hole n => exact h n hpiece
    _ = s := placeholder.spell_pieces s

/-- A hole of a text stands in it. -/
theorem exists_eq_append_of_mem_pieces {s n : List Char} (h : .hole n ∈ placeholder.pieces s) :
    ∃ a b, s = a ++ (placeholder.spellHole n ++ b) := by
  obtain ⟨before, after, hpieces⟩ := List.append_of_mem h
  refine ⟨before.flatMap placeholder.spell, after.flatMap placeholder.spell, ?_⟩
  rw [← placeholder.spell_pieces s, hpieces, List.flatMap_append, List.flatMap_cons]
  rfl

/-- A text that is not closed has an open placeholder. -/
theorem exists_open {s : List Char} (h : ¬ Closed f s) :
    ∃ a n b, s = a ++ (placeholder.spellHole n ++ b) ∧ IsName n ∧ f (String.ofList n) = none := by
  simp only [Closed, Classical.not_forall] at h
  obtain ⟨n, hmem, hnone⟩ := h
  obtain ⟨a, b, hs⟩ := exists_eq_append_of_mem_pieces hmem
  exact ⟨a, n, b, hs, isName_of_mem_pieces hmem, by simpa using hnone⟩

/-! ### When two phases agree -/

section TwoPhases

variable (hext : ∀ name value, f name = some value → g name = some value)
include hext

/-- The second phase has nothing to add to a closed text. -/
theorem put_eq_of_isSome {name : List Char} (h : (f (String.ofList name)).isSome) :
    put g (.hole name) = put f (.hole name) := by
  obtain ⟨value, hvalue⟩ := Option.isSome_iff_exists.mp h
  simp [put, hvalue, hext _ _ hvalue]

theorem filled_eq_of_closed {s : List Char} (h : Closed f s) : filled g s = filled f s := by
  refine filled_congr fun piece hpiece => ?_
  cases piece with
  | char c => rfl
  | hole name => exact put_eq_of_isSome hext (h name hpiece)

/-- Two phases agree with one when the second phase keeps what the first one made of closed texts.
-/
theorem filled_filled_iff :
    (∀ s, filled g (filled f s) = filled g s) ↔
      ∀ s, Closed f s → filled g (filled f s) = filled f s := by
  constructor
  · intro h s hclosed
    rw [h, filled_eq_of_closed hext hclosed]
  · intro h s
    induction hlength : s.length using Nat.strongRecOn generalizing s with
    | ind length ih =>
        subst hlength
        by_cases hclosed : Closed f s
        · rw [h s hclosed, filled_eq_of_closed hext hclosed]
        · -- an open placeholder is the same for both phases; what stands around it is shorter
          obtain ⟨a, n, b, rfl, hn, hnone⟩ := exists_open hclosed
          have hopen : put f (.hole n) = placeholder.spellHole n := by simp [put, hnone]
          have ha := ih a.length (by simp [spellHole_eq]) a rfl
          have hb := ih b.length (by simp [spellHole_eq]; omega) b rfl
          rw [filled_append_hole hn, hopen, filled_append_hole hn, filled_append_hole hn, ha, hb]

end TwoPhases

/-! ### Values without braces -/

/-- A brace in a filled text comes from the text if none comes from a value. -/
theorem eq_append_char_of_flatMap_put {c : Char} {ps : List Piece} {x y : List Char}
    (hvalues : ∀ name, .hole name ∈ ps → c ∉ put f (.hole name))
    (h : ps.flatMap (put f) = x ++ c :: y) :
    ∃ ps₁ ps₂, ps = ps₁ ++ .char c :: ps₂ ∧ ps₁.flatMap (put f) = x ∧ ps₂.flatMap (put f) = y := by
  induction ps generalizing x with
  | nil => simp at h
  | cons piece ps ih =>
      have hrest : ∀ name, .hole name ∈ ps → c ∉ put f (.hole name) := fun name hname =>
        hvalues name (List.mem_cons_of_mem _ hname)
      rw [List.flatMap_cons] at h
      -- the character stands behind what the first piece puts, or in it
      rcases List.append_eq_append_iff.mp h with ⟨w, rfl, hw⟩ | ⟨w, hpiece, hw⟩
      · obtain ⟨ps₁, ps₂, rfl, rfl, hy⟩ := ih hrest hw
        exact ⟨piece :: ps₁, ps₂, rfl, List.flatMap_cons, hy⟩
      · cases w with
        | nil =>
            obtain ⟨ps₁, ps₂, rfl, hx, hy⟩ := ih (x := []) hrest hw.symm
            refine ⟨piece :: ps₁, ps₂, rfl, ?_, hy⟩
            rw [List.flatMap_cons, hx, hpiece, List.append_nil, List.append_nil]
        | cons d w =>
            obtain ⟨rfl, hy⟩ := List.cons.inj hw
            cases piece with
            | hole name =>
                refine absurd ?_ (hvalues name List.mem_cons_self)
                rw [hpiece]
                simp
            | char d =>
                have hchar : [d] = x ++ c :: w := hpiece
                cases x with
                | nil =>
                    obtain ⟨rfl, rfl⟩ := List.cons.inj hchar
                    exact ⟨[], ps, rfl, rfl, hy.symm⟩
                | cons a x => simp at hchar

/-- Pieces none of which puts a value into a text are the characters of that text. -/
theorem eq_map_char_of_flatMap_put {ps : List Piece} {m : List Char}
    (hvalues : ∀ name, .hole name ∈ ps → ¬ put f (.hole name) <:+: m)
    (h : ps.flatMap (put f) = m) : ps = m.map .char := by
  induction ps generalizing m with
  | nil =>
      obtain rfl : [] = m := h
      rfl
  | cons piece ps ih =>
      subst h
      cases piece with
      | hole name =>
          refine absurd ?_ (hvalues name List.mem_cons_self)
          exact (List.prefix_append (put f (.hole name)) (ps.flatMap (put f))).isInfix
      | char c =>
          have hps : ps = (ps.flatMap (put f)).map .char := by
            refine ih (fun name hname hsub => ?_) rfl
            exact hvalues name (List.mem_cons_of_mem _ hname)
              (hsub.trans (List.suffix_cons c _).isInfix)
          rw [List.flatMap_cons, show put f (.char c) = [c] from rfl, List.singleton_append,
            List.map_cons, ← hps]

/-- Values without braces make up no placeholder of whose name they are no part. -/
theorem filled_ne_append_spellHole {s n : List Char} (hn : IsName n)
    (hbare : ∀ name, .hole name ∈ placeholder.pieces s →
      '\x7b' ∉ put f (.hole name) ∧ '\x7d' ∉ put f (.hole name))
    (hpart : ∀ name, .hole name ∈ placeholder.pieces s → ¬ put f (.hole name) <:+: n)
    (x y : List Char) : filled f s ≠ x ++ (placeholder.spellHole n ++ y) := by
  intro h
  have hspell : placeholder.spellHole n ++ y =
      '\x7b' :: '\x7b' :: (n ++ '\x7d' :: '\x7d' :: y) := by
    rw [spellHole_eq]
    simp
  rw [filled, hspell] at h
  generalize hps : placeholder.pieces s = ps at h hbare hpart
  -- the four braces come from the text, and nothing but characters stands between them
  have hnone : ∀ name, .hole name ∈ ps → ¬ put f (.hole name) <:+: [] := fun name hname hsub =>
    hpart name hname (hsub.trans List.nil_infix)
  obtain ⟨p₁, q₁, rfl, -, h₁⟩ :=
    eq_append_char_of_flatMap_put (fun name hname => (hbare name hname).1) h
  obtain ⟨p₂, q₂, rfl, hp₂, h₂⟩ := eq_append_char_of_flatMap_put (x := [])
    (fun name hname => (hbare name (by simp [hname])).1) h₁
  obtain ⟨p₃, q₃, rfl, hp₃, h₃⟩ := eq_append_char_of_flatMap_put
    (fun name hname => (hbare name (by simp [hname])).2) h₂
  obtain ⟨p₄, q₄, rfl, hp₄, -⟩ := eq_append_char_of_flatMap_put (x := [])
    (fun name hname => (hbare name (by simp [hname])).2) h₃
  obtain rfl : p₂ = [] :=
    eq_map_char_of_flatMap_put (fun name hname => hnone name (by simp [hname])) hp₂
  obtain rfl : p₃ = n.map .char :=
    eq_map_char_of_flatMap_put (fun name hname => hpart name (by simp [hname])) hp₃
  obtain rfl : p₄ = [] :=
    eq_map_char_of_flatMap_put (fun name hname => hnone name (by simp [hname])) hp₄
  have hchars : placeholder.pieces s = p₁ ++ ((placeholder.spellHole n).map .char ++ q₄) := by
    rw [hps, spellHole_eq]
    simp
  exact pieces_ne_chars hn hchars

/-- A placeholder between the braces of another name: its value takes a part of that name. -/
theorem filled_nested {a n x y : List Char} {value : String} (ha : IsName a) (hn : IsName n)
    (hvalue : f (String.ofList a) = some value) (hpart : x ++ value.toList ++ y = n) :
    filled f (('\x7b' :: '\x7b' :: x) ++ (placeholder.spellHole a ++ (y ++ ['\x7d', '\x7d']))) =
      placeholder.spellHole n := by
  subst hpart
  have hx : '\x7d' ∉ '\x7b' :: '\x7b' :: x := by
    intro hc
    have hmem : '\x7d' ∈ x := by simpa using hc
    exact hn.noClosing (by simp [hmem])
  have hy : '\x7b' ∉ y ++ ['\x7d', '\x7d'] := by
    intro hc
    have hmem : '\x7b' ∈ y := by simpa using hc
    exact hn.noOpening (by simp [hmem])
  rw [filled_append_hole ha, filled_eq_self (.inr hx), filled_eq_self (.inl hy), spellHole_eq]
  simp [put, hvalue]

section TwoPhases

variable (hext : ∀ name value, f name = some value → g name = some value)
include hext

/-- If no value holds a brace, two phases agree with one when no value is a part of a name with a
text of its own. -/
theorem filled_filled_iff_of_bare
    (hbare : ∀ name value, IsName name → f (String.ofList name) = some value →
      '\x7b' ∉ value.toList ∧ '\x7d' ∉ value.toList) :
    (∀ s, filled g (filled f s) = filled g s) ↔
      ∀ a value n, IsName a → f (String.ofList a) = some value → IsName n →
        put g (.hole n) ≠ placeholder.spellHole n → ¬ value.toList <:+: n := by
  constructor
  · -- a value that is a part of `n` is put between the other parts of `n` and the braces
    rintro h a value n ha hvalue hn hput ⟨x, y, hpart⟩
    have hagree :=
      h (('\x7b' :: '\x7b' :: x) ++ (placeholder.spellHole a ++ (y ++ ['\x7d', '\x7d'])))
    rw [filled_nested ha hn hvalue hpart, filled_nested ha hn (hext _ _ hvalue) hpart,
      filled_spellHole hn] at hagree
    exact hput hagree
  · intro h
    refine (filled_filled_iff hext).mpr fun s hclosed => filled_eq_self_of_put fun n hmem => ?_
    have hvalue : ∀ name, .hole name ∈ placeholder.pieces s → ∃ value : String,
        f (String.ofList name) = some value ∧ put f (.hole name) = value.toList := by
      intro name hname
      obtain ⟨value, hvalue⟩ := Option.isSome_iff_exists.mp (hclosed name hname)
      exact ⟨value, hvalue, by simp [put, hvalue]⟩
    have hn := isName_of_mem_pieces hmem
    obtain ⟨x, y, hfilled⟩ := exists_eq_append_of_mem_pieces hmem
    by_cases hput : put g (.hole n) = placeholder.spellHole n
    · exact hput
    · -- a name with a text of its own has no value for a part, so no value made up this hole
      refine absurd hfilled (filled_ne_append_spellHole hn ?_ ?_ x y)
      · intro name hname
        obtain ⟨value, hknown, hvalue⟩ := hvalue name hname
        rw [hvalue]
        exact hbare name value (isName_of_mem_pieces hname) hknown
      · intro name hname
        obtain ⟨value, hknown, hvalue⟩ := hvalue name hname
        rw [hvalue]
        exact h name value n (isName_of_mem_pieces hname) hknown hn hput

end TwoPhases

end Placeholder

/-! ### The two phases of a run -/

namespace VariableState

open Placeholder

theorem lookupWith_of_fixed? (st : VariableState) (generated : String → Option String)
    (name value : String) (h : st.fixed? name = some value) :
    st.lookupWith generated name = some value := by
  rw [lookupWith, h]
  rfl

/-- Asking a generator for a name is a function: it gives a text and changes nothing. -/
def Steady (st : VariableState) (w : World) (generated : String → Option String) (name : String) :
    Prop :=
  st.fixed? name = none → isExpression name = true →
    st.generators.evaluate w name = (generated name, st.generators)

theorem Steady.lookup_eq {st : VariableState} {w : World} {generated : String → Option String}
    {name : String} (h : st.Steady w generated name) :
    st.lookup w name = (st.lookupWith generated name, st) := by
  cases hfixed : st.fixed? name with
  | some value => simp [lookup, lookupWith, hfixed]
  | none =>
      cases hasked : isExpression name with
      | false => simp [lookup, lookupWith, hfixed, hasked]
      | true => simp [lookup, lookupWith, hfixed, hasked, h hfixed hasked]

/-- Where asking generators is a function, filling is one. -/
theorem substitute_eq_substituteWith {st : VariableState} {w : World}
    {generated : String → Option String} {text : String}
    (h : ∀ name, .hole name ∈ placeholder.pieces text.toList →
      st.Steady w generated (String.ofList name)) :
    st.substitute w text = (st.substituteWith generated text, st) := by
  have hpieces : ∀ ps : List Piece,
      (∀ name, .hole name ∈ ps → st.Steady w generated (String.ofList name)) →
      placeholder.fillPieces (lookup w) st ps =
        (ps.flatMap (put (st.lookupWith generated)), st) := by
    intro ps hps
    induction ps with
    | nil => rfl
    | cons piece ps ih =>
        have hrest := ih fun name hname => hps name (List.mem_cons_of_mem _ hname)
        cases piece with
        | char c =>
            rw [HoleStyle.fillPieces, hrest]
            rfl
        | hole name =>
            have hlookup := (hps name List.mem_cons_self).lookup_eq
            rw [HoleStyle.fillPieces, hlookup]
            simp only [hrest]
            rfl
  rw [substitute, HoleStyle.fillFrom, hpieces _ h]
  rfl

/-- **Two phases and one**: where asking generators is a function, filling a text is one.  For that
function, filling at compile time and again at send time agrees with filling once, on every text,
exactly when the second phase changes no text all of whose placeholders the first one knew.  If no
value of the overrides and the store holds a brace, this is so exactly when none is a part of a name
that has another text than its placeholder. -/
theorem twoPhases_agree_iff (st : VariableState) (generated : String → Option String) :
    (∀ w text, (∀ name, .hole name ∈ placeholder.pieces text.toList →
        st.Steady w generated (String.ofList name)) →
      st.substitute w text = (st.substituteWith generated text, st)) ∧
    ((∀ text, st.substituteWith generated (st.substituteStatic text) =
        st.substituteWith generated text) ↔
      ∀ text, Closed st.fixed? text.toList →
        st.substituteWith generated (st.substituteStatic text) = st.substituteStatic text) ∧
    ((∀ name value, IsName name → st.fixed? (String.ofList name) = some value →
        '\x7b' ∉ value.toList ∧ '\x7d' ∉ value.toList) →
      ((∀ text, st.substituteWith generated (st.substituteStatic text) =
          st.substituteWith generated text) ↔
        ∀ a value n, IsName a → st.fixed? (String.ofList a) = some value → IsName n →
          put (st.lookupWith generated) (.hole n) ≠ placeholder.spellHole n →
            ¬ value.toList <:+: n)) := by
  refine ⟨fun w text hsteady => substitute_eq_substituteWith hsteady, ?_⟩
  -- both statements are about lists of characters
  have hphases : (∀ text, st.substituteWith generated (st.substituteStatic text) =
        st.substituteWith generated text) ↔
      ∀ s, filled (st.lookupWith generated) (filled st.fixed? s) =
        filled (st.lookupWith generated) s := by
    constructor
    · intro h s
      have htext := congrArg String.toList (h (String.ofList s))
      simpa only [substituteWith, substituteStatic, toList_fill, String.toList_ofList] using htext
    · intro h text
      refine String.toList_inj.mp ?_
      simpa only [substituteWith, substituteStatic, toList_fill] using h text.toList
  have hclosed : (∀ text, Closed st.fixed? text.toList →
        st.substituteWith generated (st.substituteStatic text) = st.substituteStatic text) ↔
      ∀ s, Closed st.fixed? s →
        filled (st.lookupWith generated) (filled st.fixed? s) = filled st.fixed? s := by
    constructor
    · intro h s hs
      have htext := congrArg String.toList (h (String.ofList s) (by rwa [String.toList_ofList]))
      simpa only [substituteWith, substituteStatic, toList_fill, String.toList_ofList] using htext
    · intro h text htext
      refine String.toList_inj.mp ?_
      simpa only [substituteWith, substituteStatic, toList_fill] using h text.toList htext
  have hext := st.lookupWith_of_fixed? generated
  rw [hphases, hclosed]
  exact ⟨filled_filled_iff hext, fun hbare => filled_filled_iff_of_bare hext hbare⟩

/-- A value that is a placeholder is filled again: a name whose value is the placeholder of `b`
gives the value of `b` when it is filled twice, and that placeholder when it is filled once. -/
theorem substitute_substituteStatic_ne :
    let st : VariableState :=
      { store := Table.insert (Table.insert ∅ "a" "\x7b\x7bb\x7d\x7d") "b" "B" }
    (st.substitute {} (st.substituteStatic "\x7b\x7ba\x7d\x7d")).1 = "B" ∧
      (st.substitute {} "\x7b\x7ba\x7d\x7d").1 = "\x7b\x7bb\x7d\x7d" := by
  intro st
  have ha : placeholder.pieces "\x7b\x7ba\x7d\x7d".toList = [.hole ['a']] :=
    pieces_spellHole (n := ['a']) ⟨by decide, by decide, by decide⟩
  have hb : placeholder.pieces "\x7b\x7bb\x7d\x7d".toList = [.hole ['b']] :=
    pieces_spellHole (n := ['b']) ⟨by decide, by decide, by decide⟩
  have hstatic : st.substituteStatic "\x7b\x7ba\x7d\x7d" = "\x7b\x7bb\x7d\x7d" := by
    rw [substituteStatic, HoleStyle.fill, ha]
    decide
  rw [hstatic]
  constructor
  · rw [substitute, HoleStyle.fillFrom, hb]
    decide
  · rw [substitute, HoleStyle.fillFrom, ha]
    decide

end VariableState

end HttpSuite
