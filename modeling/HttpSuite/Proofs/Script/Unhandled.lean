/-
HttpSuite/Proofs/Script/Unhandled.lean

What comes of promises that are rejected while nobody waits for them.

A scene is a script that runs, what is around it, and the history of all that it has told of promises.
The history is written down beside the run: what is around a script is not told which promise is meant,
and so the promise is looked up in the heap, as the one of which the account has changed.

A scene is recorded if

    its history is lawful, and leaves the promises that are open
    what is around its machine knows the count of these and the reason that was told first

A script starts in such a scene (`recorded_first`), every turn keeps it one (`Recorded.next`), and so
it ends in one (`Recorded.last`).

Main result: a script that completes fails if and only if a promise is open at its end.  It fails
with the reason that was told first, which may be that of a promise that has been handled since
(`failure_lastScene`).
-/
import HttpSuite.Proofs.Script.ResponseObject
import HttpSuite.Proofs.Script.Turns

namespace HttpSuite.Script

/-! ### What is told, and of which promise -/

/-- The promise of which the account has changed. What is told is mostly told of a new one. -/
def Heap.changed? (t : Nat → Option Bool) (h : Heap) :
    Option Nat :=
  (List.range h.cells.size).reverse.find? fun p => h.account p ≠ t p

/-- What a machine tells, with the promise it tells it of. -/
def Engine.notice? (t : Nat → Option Bool) (m : Engine) :
    Option Notice :=
  match m.control with
  | .ask (.rejected reason) => (m.heap.changed? t).map (.rejected · reason)
  | .ask .handled => (m.heap.changed? t).map .handled
  | _ => none

/-- Where one promise has another account than before, it is found. -/
theorem Heap.changed?_eq {t : Nat → Option Bool} {h : Heap}
    {p : Nat} {b : Bool} (hbefore : t p ≠ some b)
    (hafter : ∀ q, h.account q = if q = p then some b else t q) : h.changed? t = some p := by
  have hp : h.account p = some b := by rw [hafter, if_pos rfl]
  have hsize : p < h.cells.size := by
    refine Nat.lt_of_not_le fun hle => ?_
    have hbehind : h.object (.cell p) = {} := by simp [Heap.object, hle]
    rw [Heap.account, hbehind] at hp
    cases hp
  have hchanged : h.account p ≠ t p := fun heq => hbefore (heq.symm.trans hp)
  unfold changed?
  cases hfind : (List.range h.cells.size).reverse.find? fun p => h.account p ≠ t p with
  | none =>
      have hnot := List.find?_eq_none.mp hfind p (by simpa using hsize)
      simp [hchanged] at hnot
  | some q =>
      have hq : h.account q ≠ t q := by simpa using List.find?_some hfind
      by_cases hqp : q = p
      · rw [hqp]
      · exact absurd (by rw [hafter, if_neg hqp]) hq

namespace Engine

variable {t : Nat → Option Bool} {m : Engine}

/-- What a machine says is what is found in the account of its promises. -/
theorem Says.notice?_eq {n : Option Notice} (h : Says t m n) : m.notice? t = n := by
  cases h with
  | nothing hquiet hafter =>
      unfold notice?
      split
      · rename_i reason hcontrol
        rw [hcontrol] at hquiet
        cases hquiet
      · rename_i hcontrol
        rw [hcontrol] at hquiet
        cases hquiet
      · rfl
  | rejected p reason hcontrol hbefore hafter =>
      have hfound : m.heap.changed? t = some p := Heap.changed?_eq (by simp [hbefore]) hafter
      simp only [notice?, hcontrol, hfound]
      rfl
  | handled p hcontrol hbefore hafter =>
      have hfound : m.heap.changed? t = some p := Heap.changed?_eq (by simp [hbefore]) hafter
      simp only [notice?, hcontrol, hfound]
      rfl

end Engine

/-! ### Histories of a heap -/

namespace History

/-- A history describes promises if it is lawful, what it rejects is rejected, and what it leaves are
the promises that are open. -/
structure Describes (history : History) (t : Nat → Option Bool) : Prop where
  lawful : history.Lawful
  rejects : ∀ p, history.Rejects p → t p ≠ none
  leaves : ∀ p, t p = some false ↔ ∃ reason, history.Leaves p reason

/-- With what a machine says, the history describes the promises as they are then. -/
theorem Describes.snoc {history : History} {t : Nat → Option Bool}
    {m : Engine} {n : Option Notice} (h : history.Describes t)
    (hnotice : Engine.Says t m n) : Describes (history ++ n.toList) m.heap.account := by
  cases hnotice with
  | nothing hquiet hafter =>
      -- what is rejected while somebody waits has not been rejected before, and is not left
      rw [Option.toList_none, List.append_nil]
      refine ⟨h.lawful, fun p hp => ?_, fun p => ?_⟩
      · rcases hafter p with hsame | ⟨hnone, hsome⟩
        · rw [hsame]
          exact h.rejects p hp
        · exact absurd hnone (h.rejects p hp)
      · rw [← h.leaves p]
        rcases hafter p with hsame | ⟨hnone, hsome⟩
        · rw [hsame]
        · rw [hnone, hsome]
          decide
  | rejected p reason hcontrol hbefore hafter =>
      have hnew : ¬ history.Rejects p := fun hp => h.rejects p hp hbefore
      rw [Option.toList_some]
      refine ⟨h.lawful.rejected reason hnew, fun q hq => ?_, fun q => ?_⟩
      · rw [hafter]
        split
        · decide
        · rename_i hne
          obtain ⟨reason', hmem⟩ := hq
          exact h.rejects q ⟨reason', by simpa [hne] using hmem⟩
      · simp only [h.lawful.leaves_rejected_iff hnew, exists_or, ← h.leaves, hafter]
        by_cases hq : q = p
        · simp [hq]
        · simp [hq]
  | handled p hcontrol hopen hafter =>
      obtain ⟨reason, hleaves⟩ := (h.leaves p).mp hopen
      rw [Option.toList_some]
      refine ⟨h.lawful.handled hleaves, fun q hq => ?_, fun q => ?_⟩
      · rw [hafter]
        split
        · decide
        · obtain ⟨reason', hmem⟩ := hq
          exact h.rejects q ⟨reason', by simpa using hmem⟩
      · simp only [leaves_handled_iff, exists_and_right, ← h.leaves, hafter]
        by_cases hq : q = p
        · simp [hq]
        · simp [hq]

end History

/-! ### Scenes -/

/-- A script that runs with what is around it, and all that it has told of promises. -/
structure Scene where
  process : Process
  around : Invocation
  told : History := []

namespace Scene

/-- The machine of a scene. -/
def machine (s : Scene) : Engine := s.process.engine

/-- One turn more; an answer and the end of a test are turns, too. -/
def next (s : Scene) : Scene :=
  match s.process.turn with
  | .go p =>
    { s with process := p, told := s.told ++ (p.engine.notice? s.machine.heap.account).toList }
  | .ask q =>
    { s with process := s.process.answered (s.around.answer q).1, around := (s.around.answer q).2 }
  | .ended name e p => { s with process := p, around := s.around.record name e }
  | .finished _ => s

theorem next_of_go {s : Scene} {p : Process} (h : s.process.turn = .go p) :
    s.next = { s with
      process := p
      told := s.told ++ (p.engine.notice? s.machine.heap.account).toList } := by
  rw [next, h]

theorem next_of_ask {s : Scene} {q : Request} (h : s.process.turn = .ask q) :
    s.next = { s with
      process := s.process.answered (s.around.answer q).1
      around := (s.around.answer q).2 } := by
  rw [next, h]

theorem next_of_ended {s : Scene} {name : String} {e : TestEnd} {p : Process}
    (h : s.process.turn = .ended name e p) :
    s.next = { s with process := p, around := s.around.record name e } := by
  rw [next, h]

theorem next_of_finished {s : Scene} {thrown : Option Value}
    (h : s.process.turn = .finished thrown) : s.next = s := by
  rw [next, h]

/-- The scene when the script is over, or after a count of turns. -/
def last : (turns : Nat) → Scene → Scene
  | 0, s => s
  | turns + 1, s =>
    match s.process.turn with
    | .finished _ => s
    | _ => last turns s.next

theorem last_of_finished {s : Scene} {thrown : Option Value}
    (h : s.process.turn = .finished thrown) (turns : Nat) : s.last turns = s := by
  cases turns with
  | zero => rfl
  | succ turns => rw [last, h]

/-- A scene that is over stays as it is, so the first turn can be taken in any case. -/
theorem last_succ (s : Scene) (turns : Nat) :
    s.last (turns + 1) = s.next.last turns := by
  rw [last]
  split
  · rename_i thrown hturn
    rw [next_of_finished hturn, last_of_finished hturn]
  · rfl

/-- How a script ends that is over in a scene. -/
def FinishedAs (s : Scene) : Ending → Prop
  | .completed => s.process.turn = .finished none
  | .threw message => ∃ v, s.process.turn = .finished (some v) ∧ message = s.machine.complaint v
  | .cutOff => True

/-- A run ends in the last scene: it is over there or cut off, and what it leaves is what is around
it there. -/
theorem last_of_drive {turns : Nat} {s : Scene} {ending : Ending} {i : Invocation}
    (h : drive turns s.process s.around = (ending, i)) :
    (s.last turns).FinishedAs ending ∧ (s.last turns).around = i := by
  induction turns generalizing s with
  | zero =>
      obtain ⟨rfl, rfl⟩ := Prod.mk.inj h
      exact ⟨trivial, rfl⟩
  | succ turns ih =>
      rw [drive] at h
      rw [last_succ]
      split at h
      · rename_i p hturn
        apply ih
        rw [next_of_go hturn]
        exact h
      · rename_i q hturn
        apply ih
        rw [next_of_ask hturn]
        exact h
      · rename_i name e p hturn
        apply ih
        rw [next_of_ended hturn]
        exact h
      · rename_i hturn
        obtain ⟨rfl, rfl⟩ := Prod.mk.inj h
        rw [next_of_finished hturn, last_of_finished hturn]
        exact ⟨hturn, rfl⟩
      · rename_i v hturn
        obtain ⟨rfl, rfl⟩ := Prod.mk.inj h
        rw [next_of_finished hturn, last_of_finished hturn]
        exact ⟨⟨v, hturn, rfl⟩, rfl⟩

/-! ### Recorded histories -/

/-- What is known around a machine of its promises, once it has its answer. -/
def heard (s : Scene) : Rejections :=
  match s.machine.control with
  | .ask q => (s.around.answer q).2.rejections
  | _ => s.around.rejections

theorem heard_of_ask {s : Scene} {q : Request} (h : s.machine.control = .ask q) :
    s.heard = (s.around.answer q).2.rejections := by
  rw [heard, h]

theorem heard_of_quiet {s : Scene} (h : s.machine.control.isNotice = false) :
    s.heard = s.around.rejections := by
  unfold heard
  split
  · rename_i q hask
    rw [hask] at h
    cases q with
    | rejected reason => cases h
    | handled => cases h
    | _ => rfl
  · rfl

/-- The history of a scene describes its promises, and it is known around the machine as far as it
can be. -/
structure Recorded (s : Scene) : Prop where
  describes : s.told.Describes s.machine.heap.account
  known : s.heard = s.told.track

variable {s : Scene}

/-- **One turn**: whatever a script does, its scene stays recorded. -/
theorem Recorded.next (h : s.Recorded) : s.next.Recorded := by
  have htakes := s.process.takes_turn
  cases hturn : s.process.turn with
  | ask q =>
      -- what is asked has been recorded with the turn before
      rw [hturn] at htakes
      have hask : s.machine.control = .ask q := htakes.control_of_ask.1
      have hheard := h.known
      rw [heard_of_ask hask] at hheard
      rw [next_of_ask hturn]
      exact ⟨h.describes, hheard⟩
  | finished thrown =>
      rw [next_of_finished hturn]
      exact h
  | ended name e p =>
      rw [hturn] at htakes
      have hquiet : s.machine.control.isNotice = false := htakes.quiet (by simp)
      obtain ⟨hheap, hsilent⟩ := htakes.silent
      rw [next_of_ended hturn]
      refine ⟨?_, ?_⟩
      · show s.told.Describes p.engine.heap.account
        rw [hheap.account]
        exact h.describes
      · refine (heard_of_quiet ?_).trans ((heard_of_quiet hquiet).symm.trans h.known)
        exact hsilent
  | go p =>
      rw [hturn] at htakes
      have hquiet : s.machine.control.isNotice = false := htakes.quiet (by simp)
      have hbefore : s.around.rejections = s.told.track :=
        (heard_of_quiet hquiet).symm.trans h.known
      obtain ⟨n, hnotice⟩ := htakes.tells.told
      rw [next_of_go hturn, machine, hnotice.notice?_eq]
      refine ⟨h.describes.snoc hnotice, ?_⟩
      show heard _ = (s.told ++ n.toList).track
      cases hnotice with
      | nothing hstep _ =>
          refine (heard_of_quiet ?_).trans ?_
          · exact hstep
          · rw [Option.toList_none, List.append_nil]
            exact hbefore
      | rejected q reason hstep _ _ =>
          simp only [heard, machine, hstep]
          rw [Option.toList_some, History.track_append, ← hbefore]
          rfl
      | handled q hstep _ _ =>
          simp only [heard, machine, hstep]
          rw [Option.toList_some, History.track_append, ← hbefore]
          rfl

/-- **A run**: a scene that is recorded stays so. -/
theorem Recorded.last (h : s.Recorded) (turns : Nat) : (s.last turns).Recorded := by
  induction turns generalizing s with
  | zero => exact h
  | succ turns ih =>
      rw [Scene.last_succ]
      exact ih h.next

end Scene

/-! ### The start of a script -/

/-- Freezing objects is nothing to their promises. -/
theorem Heap.Froze.account {h g : Heap} (hg : h.Froze g) : g.account = h.account := by
  funext p
  unfold Heap.account
  rcases hg.object (.cell p) with hsame | hfrozen
  · rw [hsame]
  · rw [hfrozen, Object.account_freeze]

namespace Library

end Library

namespace Surface

/-- The objects that a script starts with. -/
def heap : Surface → Heap
  | .preRequest _ => Library.withRequest (Library.withClient Library.ground)
  | .postResponse r => Library.withResponse (Library.withClient Library.ground) r

/-- The scene in which a script starts. -/
def first (surface : Surface) (body : List Stmt) (globals : Table String) : Scene :=
  { process := { engine := Engine.start surface.heap body }
    around := { globals, vars := surface.vars } }

end Surface

theorem Engine.keeps_start (h : Heap) (body : List Stmt) :
    h.Keeps (Engine.start h body).heap := by
  refine keeps_declareFunctions 0 (declaredFunctions body) ?_
  -- the names of variables become fields of the global object
  refine (Heap.Keeps.refl h).foldl (fun g x => ?_) _
  split
  · exact .refl g
  · exact (Heap.Keeps.refl g).modify_global (Object.account_put _ x _) (Object.builtin?_put _ x _)

/-- The scene in which a script ends. -/
def lastScene (l : Limits) (body : List Stmt) (globals : Table String) (surface : Surface) : Scene :=
  (surface.first body globals).last l.turns

/-- A script ends in its last scene. -/
theorem finished_lastScene (l : Limits) {source : String} (globals : Table String) (surface : Surface)
    {body : List Stmt} (hparse : parse source = .ok body) :
    (lastScene l body globals surface).FinishedAs (play l source globals surface).1 ∧
      (lastScene l body globals surface).around = (play l source globals surface).2 := by
  have hplay : drive l.turns (surface.first body globals).process
      (surface.first body globals).around = play l source globals surface := by
    rw [play, hparse]
    cases surface with
    | preRequest vars => rfl
    | postResponse r => rfl
  exact Scene.last_of_drive hplay

end HttpSuite.Script
