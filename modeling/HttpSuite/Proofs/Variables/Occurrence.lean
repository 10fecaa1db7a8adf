/-
HttpSuite/Proofs/Variables/Occurrence.lean

Filling a text, told by the placeholders that occur in it.  An occurrence is a name between its
braces at any place of the text, and nothing is said about how it is found.  Occurrences do not
overlap (`Occurs.apart`), so a text is cut at all of them at once,

    front {{n₁}} behind₁ {{n₂}} behind₂ ... {{nₖ}} behindₖ

and this is the cut that the scan from left to right makes (`isCut_cutOf`).  What is done for the
pieces of a text is then done for the names of its cut, from left to right (`flatMap_eq_join`,
`fillPieces_eq_joinWith`).

Main result: a filled text is the text with the value of its name in the place of each occurrence,
or the occurrence as it stands where there is no value; the names are asked for once each, in order,
and nothing else is changed (`fill_occurrences`).
-/
import HttpSuite.Proofs.Text.Lines
import HttpSuite.Proofs.Variables.TwoPhase

namespace HttpSuite.Placeholder

open HoleStyle

/-! ### Occurrences -/

/-- `Occurs s a n b`: between `a` and `b`, a placeholder with the name `n` stands in the text.  A
name is not empty and has no brace and no blank at an end. -/
structure Occurs (s a n b : List Char) : Prop where
  ne_nil : n ≠ []
  noOpening : '\x7b' ∉ n
  noClosing : '\x7d' ∉ n
  trimmed : Text.trim n = n
  text : s = a ++ (['\x7b', '\x7b'] ++ n ++ ['\x7d', '\x7d']) ++ b

theorem isName_iff {n : List Char} :
    IsName n ↔ n ≠ [] ∧ '\x7b' ∉ n ∧ '\x7d' ∉ n ∧ Text.trim n = n := by
  have hends : placeholder.isName n = true ↔ n ≠ [] ∧ Text.trim n = n := by
    rcases List.eq_nil_or_concat n with rfl | ⟨t, c, rfl⟩
    · simp [placeholder]
    · simp only [placeholder, List.concat_eq_append, List.getLast?_concat, Text.trim_eq_self_iff]
      cases t <;> simp
  constructor
  · intro h
    exact ⟨h.ne_nil, h.noOpening, h.noClosing, (hends.mp h.ends).2⟩
  · rintro ⟨hne, hopening, hclosing, htrim⟩
    exact ⟨hopening, hclosing, hends.mpr ⟨hne, htrim⟩⟩

theorem occurs_iff {s a n b : List Char} :
    Occurs s a n b ↔ IsName n ∧ s = a ++ (placeholder.spellHole n ++ b) := by
  rw [isName_iff, ← List.append_assoc]
  constructor
  · rintro ⟨hne, hopening, hclosing, htrim, rfl⟩
    exact ⟨⟨hne, hopening, hclosing, htrim⟩, rfl⟩
  · rintro ⟨⟨hne, hopening, hclosing, htrim⟩, rfl⟩
    exact ⟨hne, hopening, hclosing, htrim, rfl⟩

theorem eq_of_pieces_eq {a b : List Char} (h : placeholder.pieces a = placeholder.pieces b) :
    a = b := by
  rw [← placeholder.spell_pieces a, h, placeholder.spell_pieces]

/-- Pieces that go on behind a hole are those of a text that goes on behind a placeholder. -/
theorem prefix_of_pieces_eq {a a' n : List Char} {ps : List Piece}
    (h : placeholder.pieces a' = placeholder.pieces a ++ .hole n :: ps) :
    a ++ placeholder.spellHole n <+: a' := by
  refine ⟨ps.flatMap placeholder.spell, ?_⟩
  rw [← placeholder.spell_pieces a', h, List.flatMap_append, List.flatMap_cons,
    placeholder.spell_pieces, List.append_assoc]
  rfl

/-- **Apart**: two occurrences in a text are the same one, or the one ends before the other starts.
-/
theorem Occurs.apart {s a b a' b' n n' : List Char} (h : Occurs s a n b)
    (h' : Occurs s a' n' b') :
    (a = a' ∧ n = n') ∨ a ++ placeholder.spellHole n <+: a' ∨
      a' ++ placeholder.spellHole n' <+: a := by
  obtain ⟨hn, htext⟩ := occurs_iff.mp h
  obtain ⟨hn', htext'⟩ := occurs_iff.mp h'
  have hpieces := congrArg placeholder.pieces (htext.symm.trans htext')
  rw [pieces_append_hole hn, pieces_append_hole hn'] at hpieces
  -- both holes are in the same list of pieces
  rcases List.append_eq_append_iff.mp hpieces with ⟨ps, ha', hps⟩ | ⟨ps, ha, hps⟩
  · cases ps with
    | nil =>
        rw [List.append_nil] at ha'
        exact .inl ⟨(eq_of_pieces_eq ha').symm, by simpa using (List.cons.inj hps).1⟩
    | cons piece ps =>
        obtain ⟨rfl, -⟩ := List.cons.inj hps
        exact .inr (.inl (prefix_of_pieces_eq ha'))
  · cases ps with
    | nil =>
        rw [List.append_nil] at ha
        exact .inl ⟨eq_of_pieces_eq ha, by simpa using (List.cons.inj hps).1.symm⟩
    | cons piece ps =>
        obtain ⟨rfl, -⟩ := List.cons.inj hps
        exact .inr (.inr (prefix_of_pieces_eq ha))

/-! ### Cuts -/

/-- A text that is cut at placeholders: what stands in front of the first one and, for each of them,
its name and what stands behind it up to the next one. -/
structure Cut where
  front : List Char
  parts : List (List Char × List Char)

namespace Cut

/-- The text of a cut with something in the place of each placeholder. -/
def join (value : List Char → List Char) (c : Cut) : List Char :=
  c.front ++ c.parts.flatMap fun part => value part.1 ++ part.2

/-- The text that is cut. -/
def text (c : Cut) : List Char := c.join placeholder.spellHole

/-- The names of the placeholders in order. -/
def names (c : Cut) : List (List Char) := c.parts.map (·.1)

/-- The text of a cut with a value in the place of each placeholder that has one. -/
def joinWith (values : List (Option String)) (c : Cut) : List Char :=
  c.front ++ (List.zipWith (fun part value =>
    (value.map String.toList).getD (placeholder.spellHole part.1) ++ part.2) c.parts values).flatten

/-- A text is cut in two at each of its placeholders. -/
theorem text_append (front behind n : List Char) (before after : List (List Char × List Char)) :
    text ⟨front, before ++ (n, behind) :: after⟩ =
      text ⟨front, before⟩ ++ (placeholder.spellHole n ++ text ⟨behind, after⟩) := by
  simp [text, join]

end Cut

/-- `IsCut s c`: the text is cut at all the placeholders that occur in it, and nowhere else. -/
structure IsCut (s : List Char) (c : Cut) : Prop where
  text : c.text = s
  occurs : ∀ a n b, Occurs s a n b ↔
    ∃ before behind after, c.parts = before ++ (n, behind) :: after ∧
      a = (⟨c.front, before⟩ : Cut).text ∧ b = (⟨behind, after⟩ : Cut).text

/-- The cut of a text that is given as its pieces. -/
def cutOf : List Piece → Cut
  | [] => ⟨[], []⟩
  | .char c :: ps => ⟨c :: (cutOf ps).front, (cutOf ps).parts⟩
  | .hole n :: ps => ⟨[], (n, (cutOf ps).front) :: (cutOf ps).parts⟩

/-- What is put in the place of each piece, characters as they are, is put in the places of the
names. -/
theorem flatMap_eq_join {value : Piece → List Char} (hchar : ∀ c, value (.char c) = [c])
    (ps : List Piece) : ps.flatMap value = (cutOf ps).join fun n => value (.hole n) := by
  induction ps with
  | nil => rfl
  | cons piece ps ih =>
      rw [List.flatMap_cons, ih]
      cases piece with
      | char c => rw [hchar]; rfl
      | hole n => simp [cutOf, Cut.join]

theorem text_cutOf (s : List Char) : (cutOf (placeholder.pieces s)).text = s := by
  have hchar : ∀ c, placeholder.spell (.char c) = [c] := fun _ => rfl
  have hjoin := flatMap_eq_join hchar (placeholder.pieces s)
  rw [placeholder.spell_pieces] at hjoin
  exact hjoin.symm

theorem cutOf_append_hole (ps qs : List Piece) (n : List Char) :
    cutOf (ps ++ .hole n :: qs) =
      ⟨(cutOf ps).front, (cutOf ps).parts ++ (n, (cutOf qs).front) :: (cutOf qs).parts⟩ := by
  induction ps with
  | nil => rfl
  | cons piece ps ih => cases piece <;> simp [cutOf, ih]

theorem hole_mem_of_mem_parts {ps : List Piece} {part : List Char × List Char}
    (h : part ∈ (cutOf ps).parts) : .hole part.1 ∈ ps := by
  induction ps with
  | nil => simp [cutOf] at h
  | cons piece ps ih =>
      cases piece with
      | char c => exact List.mem_cons_of_mem _ (ih h)
      | hole n =>
          rcases List.mem_cons.mp h with rfl | h
          · exact List.mem_cons_self
          · exact List.mem_cons_of_mem _ (ih h)

/-- **The cut**: the scan from left to right cuts a text at all its placeholders. -/
theorem isCut_cutOf (s : List Char) : IsCut s (cutOf (placeholder.pieces s)) where
  text := text_cutOf s
  occurs a n b := by
    rw [occurs_iff]
    constructor
    · rintro ⟨hn, rfl⟩
      rw [pieces_append_hole hn, cutOf_append_hole]
      exact ⟨_, _, _, rfl, (text_cutOf a).symm, (text_cutOf b).symm⟩
    · rintro ⟨before, behind, after, hparts, rfl, rfl⟩
      have hpart : (n, behind) ∈ (cutOf (placeholder.pieces s)).parts := by
        rw [hparts]
        simp
      refine ⟨isName_of_mem_pieces (hole_mem_of_mem_parts hpart), ?_⟩
      rw [← Cut.text_append, ← hparts]
      exact (text_cutOf s).symm

/-! ### Filling -/

section Filling

variable {σ : Type} (f : σ → String → Option String × σ)

/-- The values that a function with a state has for names that it is asked for one after the other,
and its state behind them. -/
def askAll : σ → List (List Char) → List (Option String) × σ
  | state, [] => ([], state)
  | state, n :: names =>
    let (value, state) := f state (String.ofList n)
    let (values, state) := askAll state names
    (value :: values, state)

/-- Pieces are filled by asking for the names of their cut. -/
theorem fillPieces_eq_joinWith (state : σ) (ps : List Piece) :
    placeholder.fillPieces f state ps =
      ((cutOf ps).joinWith (askAll f state (cutOf ps).names).1,
        (askAll f state (cutOf ps).names).2) := by
  induction ps generalizing state with
  | nil => rfl
  | cons piece ps ih =>
      cases piece with
      | char c =>
          rw [HoleStyle.fillPieces, ih]
          rfl
      | hole n =>
          have hrest := ih (f state (String.ofList n)).2
          simp only [HoleStyle.fillPieces, hrest]
          simp [cutOf, Cut.names, Cut.joinWith, askAll]

end Filling

/-- **Exact replacement**: the placeholders that occur in a text do not overlap, and the text is cut
at all of them.  A function that has a value for some names changes the text in the places of these
alone; one with a state is asked once for each placeholder, from left to right; and without a value
nothing is changed. -/
theorem fill_occurrences (s : String) :
    (∀ a n b a' n' b', Occurs s.toList a n b → Occurs s.toList a' n' b' →
      (a = a' ∧ n = n') ∨ a ++ placeholder.spellHole n <+: a' ∨
        a' ++ placeholder.spellHole n' <+: a) ∧
    (∃ cut, IsCut s.toList cut ∧
      (∀ f : String → Option String, (placeholder.fill f s).toList = cut.join fun n =>
        ((f (String.ofList n)).map String.toList).getD (placeholder.spellHole n)) ∧
      ∀ (σ : Type) (f : σ → String → Option String × σ) (state : σ),
        placeholder.fillFrom f state s =
          (String.ofList (cut.joinWith (askAll f state cut.names).1),
            (askAll f state cut.names).2)) ∧
    placeholder.fill (fun _ => none) s = s := by
  refine ⟨fun a n b a' n' b' h h' => h.apart h', ?_, placeholder.fill_none s⟩
  refine ⟨cutOf (placeholder.pieces s.toList), isCut_cutOf s.toList, fun f => ?_,
    fun σ f state => ?_⟩
  · rw [toList_fill, filled, flatMap_eq_join fun _ => rfl]
    rfl
  · rw [HoleStyle.fillFrom, fillPieces_eq_joinWith]

/-- A placeholder between the braces of another one, and a value that is a placeholder. -/
theorem fill_occurrences_nested :
    let s := "\x7b\x7ba\x7b\x7bb\x7d\x7d\x7d\x7d \x7b\x7bb\x7d\x7d"
    let a := "\x7b\x7ba".toList
    let a' := "\x7b\x7ba\x7b\x7bb\x7d\x7d\x7d\x7d ".toList
    let f := fun n => if n = "b" then some "\x7b\x7bb\x7d\x7d!" else none
    Occurs s.toList a ['b'] "\x7d\x7d \x7b\x7bb\x7d\x7d".toList ∧ Occurs s.toList a' ['b'] [] ∧
      a ++ placeholder.spellHole ['b'] <+: a' ∧
      placeholder.fill f s = "\x7b\x7ba\x7b\x7bb\x7d\x7d!\x7d\x7d \x7b\x7bb\x7d\x7d!" := by
  intro s a a' f
  have h : Occurs s.toList a ['b'] "\x7d\x7d \x7b\x7bb\x7d\x7d".toList := by
    constructor <;> decide
  have h' : Occurs s.toList a' ['b'] [] := by
    constructor <;> decide
  refine ⟨h, h', ?_, by decide +kernel⟩
  rcases (fill_occurrences s).1 a _ _ a' _ _ h h' with ⟨heq, -⟩ | hprefix | hprefix
  · exact absurd heq (by decide)
  · exact hprefix
  · exact absurd hprefix (by decide)

end HttpSuite.Placeholder
