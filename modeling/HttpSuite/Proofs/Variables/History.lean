/-
HttpSuite/Proofs/Variables/History.lean

The history of the variables.  Whatever a run does, the variables change in three ways only: a name
is looked up (and a generator may be asked), a text is given to a name of the store, the record of a
response is kept.  A history is the list of these changes, and `replay` carries them out:

    (v.substitute w text).2      = v.replay w (asks text)
    (v.carryOutAll w ds).2       = v.replay w (directiveHistory w v ds)

so that the states on the way are the replays of the first changes of a history, and what each
change keeps is kept in all of them.

Main result: in every state of a history the overrides are those at its start, and each of them is
what its key stands for (`overridesDominate_of_replay`).
-/
import HttpSuite.Proofs.Document.Account
import HttpSuite.Proofs.Variables.Placeholder

namespace HttpSuite.VariableState

/-! ### Changes -/

/-- A change of the variables. -/
inductive Change where
  /-- A name is looked up. -/
  | ask (name : String)
  /-- A text is given to a name of the store. -/
  | assign (key value : String)
  /-- The record of a named request is kept. -/
  | record (id : String) (r : ResponseRecord)

/-- The variables after a change. -/
def Change.apply (w : World) (v : VariableState) : Change → VariableState
  | ask name => (v.lookup w name).2
  | assign key value => v.set key value
  | record id r => v.record id r

variable (w : World)

/-- The variables after a history. -/
def replay (v : VariableState) (history : List Change) : VariableState :=
  history.foldl (Change.apply w) v

theorem replay_cons (v : VariableState) (change : Change) (history : List Change) :
    v.replay w (change :: history) = (change.apply w v).replay w history :=
  rfl

theorem replay_append (v : VariableState) (xs ys : List Change) :
    v.replay w (xs ++ ys) = (v.replay w xs).replay w ys :=
  List.foldl_append

/-- The changes that give texts to names of the store. -/
def assigns (entries : List (String × String)) : List Change :=
  entries.map fun entry => .assign entry.1 entry.2

theorem replay_assigns (v : VariableState) (entries : List (String × String)) :
    v.replay w (assigns entries) = { v with store := v.store.insertAll entries } := by
  induction entries generalizing v with
  | nil => rfl
  | cons entry entries ih => exact ih (v.set entry.1 entry.2)

/-- The look-ups while the placeholders of a text are filled. -/
def asks (text : String) : List Change :=
  (placeholder.pieces text.toList).filterMap fun
    | .char _ => none
    | .hole name => some (.ask (String.ofList name))

/-- Filling a text looks its placeholders up in order. -/
theorem substitute_snd_eq_replay (v : VariableState) (text : String) :
    (v.substitute w text).2 = v.replay w (asks text) := by
  have hpieces : ∀ (pieces : List Piece) (v : VariableState),
      (placeholder.fillPieces (lookup w) v pieces).2 =
        v.replay w (pieces.filterMap fun
          | .char _ => none
          | .hole name => some (.ask (String.ofList name))) := by
    intro pieces
    induction pieces with
    | nil => exact fun v => rfl
    | cons piece pieces ih =>
        intro v
        cases piece with
        | char c => exact ih v
        | hole name => exact ih (v.lookup w (String.ofList name)).2
  exact hpieces _ v

/-- The history of directives that are carried out one after the other. -/
def directiveHistory (v : VariableState) : List Directive → List Change
  | [] => []
  | .staticAssignment key value :: ds =>
    let (text, v') := v.substitute w value
    asks value ++ .assign key text :: directiveHistory (v'.set key text) ds
  | _ :: ds => directiveHistory v ds

/-- Directives that are carried out in two parts have the histories of both. -/
theorem directiveHistory_append (v : VariableState) (ds ds' : List Directive) :
    v.directiveHistory w (ds ++ ds') =
      v.directiveHistory w ds ++ (v.carryOutAll w ds).2.directiveHistory w ds' := by
  induction ds generalizing v with
  | nil => rfl
  | cons d ds ih =>
      cases d <;> simp only [List.cons_append, directiveHistory, carryOutAll, ih, List.append_assoc]

theorem carryOutAll_snd_eq_replay (v : VariableState) (ds : List Directive) :
    (v.carryOutAll w ds).2 = v.replay w (v.directiveHistory w ds) := by
  induction ds generalizing v with
  | nil => rfl
  | cons d ds ih =>
      cases d with
      | staticAssignment key value =>
          rw [directiveHistory, replay_append, ← substitute_snd_eq_replay, replay_cons]
          exact ih _
      | nameBinding id => exact ih v
      | pathExtraction key path => exact ih v

/-! ### Overrides -/

/-- No change is one of the overrides. -/
theorem Change.apply_overrides (v : VariableState) (change : Change) :
    (change.apply w v).overrides = v.overrides := by
  cases change with
  | ask name =>
      obtain ⟨generators, hlookup⟩ := v.lookup_snd w name
      rw [Change.apply, hlookup]
  | assign key value => rfl
  | record id r => rfl

theorem replay_overrides (v : VariableState) (history : List Change) :
    (v.replay w history).overrides = v.overrides := by
  induction history generalizing v with
  | nil => rfl
  | cons change history ih => rw [replay_cons, ih, change.apply_overrides]

/-- `v.Overridden w key value`: the key stands for the value, in a look-up and, if it is a name that
a placeholder can have, in both phases of filling. -/
structure Overridden (v : VariableState) (key value : String) : Prop where
  lookup : v.lookup w key = (some value, v)
  substituteStatic : Placeholder.IsName key.toList →
    v.substituteStatic (String.ofList (placeholder.spellHole key.toList)) = value
  substitute : Placeholder.IsName key.toList →
    v.substitute w (String.ofList (placeholder.spellHole key.toList)) = (value, v)

theorem overridden_of_get? {v : VariableState} {key value : String}
    (h : v.overrides.get? key = some value) : v.Overridden w key value := by
  have hfixed : v.fixed? key = some value := by rw [fixed?, h, Option.some_or]
  have hlookup : v.lookup w key = (some value, v) := by
    rw [VariableState.lookup, if_neg (by simp [hfixed]), lookupWith, hfixed, Option.some_or]
  have hpieces : Placeholder.IsName key.toList →
      placeholder.pieces (String.ofList (placeholder.spellHole key.toList)).toList =
        [.hole key.toList] := by
    intro hname
    rw [String.toList_ofList, Placeholder.pieces_spellHole hname]
  refine ⟨hlookup, fun hname => ?_, fun hname => ?_⟩
  · rw [VariableState.substituteStatic, HoleStyle.fill, hpieces hname]
    simp [hfixed]
  · rw [VariableState.substitute, HoleStyle.fillFrom, hpieces hname]
    simp [HoleStyle.fillPieces, hlookup]

/-- `v.OverridesDominate w history v'`: the history leads from `v` to `v'`, and after any number of
its changes the overrides are those of `v` and each of them is what its key stands for. -/
structure OverridesDominate (v : VariableState) (history : List Change) (v' : VariableState) :
    Prop where
  reached : v' = v.replay w history
  unchanged : v'.overrides = v.overrides
  onTheWay : ∀ n, (v.replay w (history.take n)).overrides = v.overrides ∧
    ∀ key value, v.overrides.get? key = some value →
      (v.replay w (history.take n)).Overridden w key value

/-- **Dominance**: the overrides dominate every history. -/
theorem overridesDominate_of_replay {v v' : VariableState} {history : List Change}
    (h : v' = v.replay w history) : v.OverridesDominate w history v' where
  reached := h
  unchanged := by rw [h, replay_overrides]
  onTheWay n := by
    have hdone := replay_overrides w v (history.take n)
    refine ⟨hdone, fun key value hkey => overridden_of_get? w ?_⟩
    rw [hdone, hkey]

end HttpSuite.VariableState
