/-
HttpSuite/Proofs/Variables/Frame.lean

What filling placeholders leaves alone. A look-up may ask a generator, and a generator may draw a
random number or read the `.env` files; nothing else of the variables of a run changes.  So the
states before and after differ at most in their generators (`substitute_snd`), and what is said
about the overrides, the store and the named responses of a run does not have to look at the texts
that are filled on the way.
-/
import HttpSuite.Variables.State

namespace HttpSuite

namespace HoleStyle

/-- What every look-up keeps is kept by filling. -/
theorem fillPieces_snd {style : HoleStyle} {σ : Type} {f : σ → String → Option String × σ}
    {Kept : σ → Prop} (step : ∀ state name, Kept state → Kept (f state name).2)
    (pieces : List Piece) :
    ∀ {state : σ}, Kept state → Kept (style.fillPieces f state pieces).2 := by
  induction pieces with
  | nil => exact fun h => h
  | cons piece rest ih =>
      intro state h
      cases piece with
      | char c => exact ih h
      | hole name => exact ih (step state _ h)

end HoleStyle

namespace VariableState

variable (w : World)

/-- A look-up changes at most the generators. -/
theorem lookup_snd (v : VariableState) (name : String) :
    ∃ generators, (v.lookup w name).2 = { v with generators } := by
  unfold lookup
  split
  · exact ⟨_, rfl⟩
  · exact ⟨v.generators, rfl⟩

/-- Filling placeholders changes at most the generators. -/
theorem substitute_snd (v : VariableState) (text : String) :
    ∃ generators, (v.substitute w text).2 = { v with generators } := by
  have step : ∀ v' name, (∃ generators, v' = { v with generators }) →
      ∃ generators, (lookup w v' name).2 = { v with generators } := by
    rintro _ name ⟨generators, rfl⟩
    obtain ⟨generators', h⟩ := lookup_snd w { v with generators } name
    exact ⟨generators', h⟩
  exact HoleStyle.fillPieces_snd step _ ⟨v.generators, rfl⟩

end VariableState

end HttpSuite
