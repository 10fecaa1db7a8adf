/-
HttpSuite/Proofs/Script/Turns.lean

What a turn of a script does to the tests that it is in.

Beside a run the events of its tests are written down: that a test is opened, that its function gave a
promise, and that it ends.  All that a turn can do, with its events, is said once (`Takes`), so that
what follows need not look at how the turn is found.

Main results: a turn does one of these things (`takes_turn`), and it tells of promises no more than a
step does (`Takes.tells`, `Takes.silent`).
-/
import HttpSuite.Proofs.Script.Telling
import HttpSuite.Script.Sandbox

namespace HttpSuite.Script

/-! ### Events -/

/-- What becomes of a test. -/
inductive Event where
  | opened (name : String)
  /-- Its function gave a promise, whose methods `catch` and `then` and whose constructor are those of
  the library or not. -/
  | promised (name : String) (promise : Nat) (plain : Bool)
  | ended (name : String) (e : TestEnd)
deriving DecidableEq, Repr, Inhabited

namespace Heap

/-- Whether the methods of a promise that attach handlers are those of the library, and so is the
constructor that makes promises of it. -/
def hasPlainMethods (h : Heap) (p : Nat) : Bool :=
  h.isBuiltin (h.get (Engine.promiseValue p) "catch") (.promise .catch) &&
    h.isBuiltin (h.get (Engine.promiseValue p) "then") (.promise .then) &&
    h.species (Engine.promiseValue p) = .library

theorem hasPlainMethods_iff {h : Heap} {p : Nat} :
    h.hasPlainMethods p = true ↔
      h.isBuiltin (h.get (Engine.promiseValue p) "catch") (.promise .catch) = true ∧
        h.isBuiltin (h.get (Engine.promiseValue p) "then") (.promise .then) = true ∧
        h.species (Engine.promiseValue p) = .library := by
  rw [hasPlainMethods, Bool.and_eq_true, Bool.and_eq_true, decide_eq_true_eq, and_assoc]

/-- A promise in a cell. -/
def IsPromise (h : Heap) (p : Nat) : Prop :=
  ∃ s, (h.object (.cell p)).kind = .promise s

theorem exists_of_isBuiltin {h : Heap} {v : Value} {b : Builtin}
    (hv : h.isBuiltin v b = true) : ∃ r, v = .object r ∧ (h.object r).kind = .builtin b := by
  unfold isBuiltin at hv
  split at hv
  · rename_i r
    split at hv
    · rename_i b' hkind
      exact ⟨r, rfl, by simpa [of_decide_eq_true hv] using hkind⟩
    · cases hv
  · cases hv

theorem isCallable_of_isBuiltin {h : Heap} {v : Value} {b : Builtin}
    (hv : h.isBuiltin v b = true) : h.isCallable v = true := by
  obtain ⟨r, rfl, hkind⟩ := exists_of_isBuiltin hv
  rw [isCallable, Object.isCallable, hkind]

theorem promise?_eq_some {h : Heap} {v : Value} {p : Nat} {s : Promise}
    (hv : h.promise? v = some (p, s)) :
    v = Engine.promiseValue p ∧ (h.object (.cell p)).kind = .promise s := by
  unfold promise? at hv
  split at hv
  · split at hv
    · rename_i i s' hkind
      obtain ⟨rfl, rfl⟩ := Prod.mk.inj (Option.some.inj hv)
      exact ⟨rfl, hkind⟩
    · cases hv
  · cases hv

theorem isPromise_of_promise? {h : Heap} {v : Value} {p : Nat} {s : Promise}
    (hv : h.promise? v = some (p, s)) : h.IsPromise p :=
  ⟨s, (promise?_eq_some hv).2⟩

/-- A promise stays one when a new object is made. -/
theorem IsPromise.allocate {h : Heap} {p : Nat} (hp : h.IsPromise p) (o : Object) :
    (h.allocate o).2.IsPromise p := by
  obtain ⟨s, hkind⟩ := hp
  refine ⟨s, ?_⟩
  rw [object_allocate, if_neg, hkind]
  rintro rfl
  have hbehind : h.object (.cell h.cells.size) = {} := by simp [object]
  rw [hbehind] at hkind
  cases hkind

theorem promise?_promiseValue {h : Heap} {p : Nat} (hp : h.IsPromise p) :
    ∃ s, h.promise? (Engine.promiseValue p) = some (p, s) := by
  obtain ⟨s, hkind⟩ := hp
  exact ⟨s, by simp [promise?, Engine.promiseValue, hkind]⟩

end Heap

namespace Process

/-- The event with which the next turn starts, if it starts with one. -/
def starting (p : Process) : List Event :=
  match p.engine.control, p.engine.stack, p.trials with
  | .test name _, _, _ => [.opened name]
  | .done _, [], { name, phase := .promised q _, .. } :: _ =>
    [.promised name q (p.engine.heap.hasPlainMethods q)]
  | _, _, _ => []

/-- The event with which a turn ends, if it ends with one. -/
def ending : Turn → List Event
  | .ended name e _ => [.ended name e]
  | .go _ | .ask _ | .finished _ => []

/-- The events of the next turn. -/
def events (p : Process) : List Event := p.starting ++ ending p.turn

/-- What the end of a test says of the script in which it ends. -/
def Ends (p : Process) (t : Trial) : TestEnd → Prop
  | .gave => t.phase = .body ∧ ∃ c, p.engine.control = .done c ∧ (∀ v, c ≠ .throw v) ∧
      ∀ v, c = .normal v → p.engine.heap.promise? v = none
  | .threw message => t.phase = .body ∧ ∃ v, p.engine.control = .done (.throw v) ∧
      message = p.engine.heap.described v
  | .fulfilled => ∃ q v, (t.phase = .attaching q ∨ t.phase = .waiting q) ∧
      (p.engine.promise q).state = .fulfilled v
  | .rejected message => ∃ q v, (t.phase = .attaching q ∨ t.phase = .waiting q) ∧
      (p.engine.promise q).state = .rejected v ∧ message = p.engine.heap.described v
  | .unsettled => ∃ q, (t.phase = .attaching q ∨ t.phase = .waiting q) ∧
      (p.engine.promise q).state = .pending ∧ p.engine.jobs = []
  | .refused _ => ∃ q,
      (∃ handler, t.phase = .promised q handler ∧ p.engine.heap.hasPlainMethods q = false) ∨
        t.phase = .attaching q ∧ ∃ v, p.engine.control = .done (.throw v)

/-- All that a turn of a script can do, with its events. -/
inductive Takes (p : Process) : List Event → Turn → Prop
  | ask {q : Request} (hcontrol : p.engine.control = .ask q) : Takes p [] (.ask q)
  | finished {thrown : Option Value} (houtcome : p.engine.outcome? = some thrown)
      (htrials : p.trials = []) : Takes p [] (.finished thrown)
  | step (hask : ∀ q, p.engine.control ≠ .ask q) (htest : ∀ name f, p.engine.control ≠ .test name f)
      (hidle : ∀ c, p.engine.control = .done c → p.engine.stack = [] → p.trials = []) :
      Takes p [] (.go { p with engine := p.engine.step })
  | opens {name : String} {f : Value} (hcontrol : p.engine.control = .test name f) :
      Takes p [.opened name] (.go (p.openTest name f))
  | promises {t : Trial} {rest : List Trial} {v : Value} {q : Nat} {s : Promise} (handler : Value)
      (hcontrol : p.engine.control = .done (.normal v)) (hstack : p.engine.stack = [])
      (htrials : p.trials = t :: rest) (hphase : t.phase = .body)
      (hpromise : p.engine.heap.promise? v = some (q, s)) :
      Takes p [] (.go
        { engine := { p.engine with
            heap := (p.engine.heap.makeBuiltin "" (.promise (.constant .undefined true))).2 }
          trials := { t with phase := .promised q handler } :: rest })
  | attaches {t : Trial} {rest : List Trial} {c : Completion} {q : Nat} {handler : Value}
      (hcontrol : p.engine.control = .done c) (hstack : p.engine.stack = [])
      (htrials : p.trials = t :: rest) (hphase : t.phase = .promised q handler) :
      Takes p [.promised t.name q (p.engine.heap.hasPlainMethods q)] (.go
        { engine := p.engine.call (p.engine.heap.get (Engine.promiseValue q) "catch")
            (Engine.promiseValue q) [handler]
          trials := { t with phase := .attaching q } :: rest })
  | refuses {t : Trial} {rest : List Trial} {c : Completion} {q : Nat} {handler : Value}
      {message : String} (hcontrol : p.engine.control = .done c) (hstack : p.engine.stack = [])
      (htrials : p.trials = t :: rest) (hphase : t.phase = .promised q handler)
      (hends : p.Ends t (.refused message)) :
      Takes p [.promised t.name q false, .ended t.name (.refused message)]
        (endTest p.engine t rest (.refused message))
  | works {t : Trial} {rest : List Trial} {c : Completion} {q : Nat} {j : Job} {jobs : List Job}
      (hcontrol : p.engine.control = .done c) (hstack : p.engine.stack = [])
      (htrials : p.trials = t :: rest) (hphase : t.phase = .attaching q ∨ t.phase = .waiting q)
      (hjobs : p.engine.jobs = j :: jobs) :
      Takes p [] (.go
        { engine := { p.engine with jobs }.startJob j
          trials := { t with phase := .waiting q } :: rest })
  | ends {t : Trial} {rest : List Trial} {c : Completion} {e : TestEnd}
      (hcontrol : p.engine.control = .done c) (hstack : p.engine.stack = [])
      (htrials : p.trials = t :: rest) (hphase : ∀ q handler, t.phase ≠ .promised q handler)
      (hends : p.Ends t e) : Takes p [.ended t.name e] (endTest p.engine t rest e)

section Idle

/-! While nothing runs, a turn goes on with the innermost test. -/

variable {p : Process} {t : Trial} {rest : List Trial} {c : Completion}
variable (hcontrol : p.engine.control = .done c) (hstack : p.engine.stack = [])
variable (htrials : p.trials = t :: rest)

include hcontrol hstack htrials

theorem turn_of_idle : p.turn = goOn p.engine t rest c := by
  unfold turn
  rw [hcontrol, hstack, htrials]

theorem starting_of_idle : p.starting =
    match t.phase with
    | .promised q _ => [.promised t.name q (p.engine.heap.hasPlainMethods q)]
    | _ => [] := by
  unfold starting
  rw [hcontrol, hstack, htrials]
  obtain ⟨name, phase, below⟩ := t
  cases phase with
  | _ => rfl

/-- While a test waits for its promise, a turn works off a job or ends the test. -/
theorem takes_await {q : Nat} (hphase : t.phase = .attaching q ∨ t.phase = .waiting q) :
    p.Takes (ending (await p.engine t rest q)) (await p.engine t rest q) := by
  have hnot : ∀ q handler, t.phase ≠ .promised q handler := by
    intro q handler hp
    rcases hphase with h | h
    · cases hp.symm.trans h
    · cases hp.symm.trans h
  unfold await
  split
  · rename_i v hstate
    exact .ends hcontrol hstack htrials hnot ⟨q, v, hphase, hstate⟩
  · rename_i v hstate
    exact .ends hcontrol hstack htrials hnot ⟨q, v, hphase, hstate, rfl⟩
  · rename_i hstate
    split
    · rename_i hjobs
      exact .ends hcontrol hstack htrials hnot ⟨q, hphase, hstate, hjobs⟩
    · rename_i j jobs hjobs
      exact .works hcontrol hstack htrials hphase hjobs

/-- When the function of a test has come to its end, the test ends, or a handler is made. -/
theorem takes_body (hphase : t.phase = .body) :
    p.Takes (ending (goOn p.engine t rest c)) (goOn p.engine t rest c) := by
  have hnot : ∀ q handler, t.phase ≠ .promised q handler := by
    intro q handler hp
    cases hp.symm.trans hphase
  unfold goOn
  rw [hphase]
  cases c with
  | throw v => exact .ends hcontrol hstack htrials hnot ⟨hphase, v, hcontrol, rfl⟩
  | jump j =>
      refine .ends hcontrol hstack htrials hnot ⟨hphase, _, hcontrol, by simp, ?_⟩
      rintro v ⟨⟩
  | normal v =>
      dsimp only
      cases hpromise : p.engine.heap.promise? v with
      | none =>
          refine .ends hcontrol hstack htrials hnot ⟨hphase, _, hcontrol, by simp, ?_⟩
          rintro w ⟨⟩
          exact hpromise
      | some found => exact .promises _ hcontrol hstack htrials hphase hpromise

/-- A handler is attached by the method that the promise has, if this can be called. -/
theorem takes_attach {q : Nat} {handler : Value} (hphase : t.phase = .promised q handler) :
    p.Takes (.promised t.name q (p.engine.heap.hasPlainMethods q) ::
      ending (attach p.engine t rest q handler)) (attach p.engine t rest q handler) := by
  unfold attach
  dsimp only
  split
  · exact .attaches hcontrol hstack htrials hphase
  · rename_i hcallable
    have hplain : p.engine.heap.hasPlainMethods q = false := by
      rw [Bool.eq_false_iff]
      intro hplain
      exact hcallable (Heap.isCallable_of_isBuiltin (Heap.hasPlainMethods_iff.mp hplain).1)
    rw [hplain]
    exact .refuses hcontrol hstack htrials hphase ⟨q, .inl ⟨handler, hphase, hplain⟩⟩

theorem takes_of_idle : p.Takes p.events p.turn := by
  rw [events, turn_of_idle hcontrol hstack htrials, starting_of_idle hcontrol hstack htrials]
  cases hphase : t.phase with
  | body => exact takes_body hcontrol hstack htrials hphase
  | promised q handler =>
      unfold goOn
      rw [hphase]
      exact takes_attach hcontrol hstack htrials hphase
  | attaching q =>
      unfold goOn
      rw [hphase]
      cases c with
      | throw v =>
          refine .ends hcontrol hstack htrials ?_ ⟨q, .inr ⟨hphase, v, hcontrol⟩⟩
          intro q' handler hp
          cases hp.symm.trans hphase
      | normal v => exact takes_await hcontrol hstack htrials (.inl hphase)
      | jump j => exact takes_await hcontrol hstack htrials (.inl hphase)
  | waiting q =>
      unfold goOn
      rw [hphase]
      exact takes_await hcontrol hstack htrials (.inr hphase)

end Idle

/-- **Turns**: a turn does one of these things, with its events. -/
theorem takes_turn (p : Process) : p.Takes p.events p.turn := by
  cases hcontrol : p.engine.control with
  | ask q =>
      rw [events, starting, turn, hcontrol]
      exact .ask hcontrol
  | test name f =>
      rw [events, starting, turn, hcontrol]
      exact .opens hcontrol
  | done c =>
      -- a machine that is done goes on with the test that runs, if there is one
      by_cases hidle : p.engine.stack = [] ∧ p.trials ≠ []
      · obtain ⟨t, rest, htrials⟩ := List.exists_cons_of_ne_nil hidle.2
        exact takes_of_idle hcontrol hidle.1 htrials
      · have hstep : p.Takes [] (.go { p with engine := p.engine.step }) := by
          refine .step (by simp [hcontrol]) (by simp [hcontrol]) fun _ _ hstack => ?_
          exact Classical.byContradiction fun htrials => hidle ⟨hstack, htrials⟩
        rw [events, starting, turn, hcontrol]
        cases hstack : p.engine.stack with
        | cons f stack => exact hstep
        | nil =>
            have htrials : p.trials = [] :=
              Classical.byContradiction fun htrials => hidle ⟨hstack, htrials⟩
            rw [htrials] at hstep ⊢
            dsimp only
            split
            · rename_i thrown houtcome
              exact .finished houtcome htrials
            · exact hstep
  | _ =>
      rw [events, starting, turn, hcontrol]
      exact .step (by simp [hcontrol]) (by simp [hcontrol]) (by simp [hcontrol])

/-! ### Promises -/

variable {p p' : Process} {events : List Event}

/-- A script asks what its machine asks. -/
theorem Takes.control_of_ask {q : Request} (h : p.Takes events (.ask q)) :
    p.engine.control = .ask q ∧ events = [] := by
  generalize hturn : Turn.ask q = turn at h
  cases h with
  | ask hcontrol =>
      cases hturn
      exact ⟨hcontrol, rfl⟩
  | _ => cases hturn

/-- A script is over when its machine is done and no test runs. -/
theorem Takes.outcome_of_finished {thrown : Option Value} (h : p.Takes events (.finished thrown)) :
    p.engine.outcome? = some thrown ∧ p.trials = [] ∧ events = [] := by
  generalize hturn : Turn.finished thrown = turn at h
  cases h with
  | finished houtcome htrials =>
      cases hturn
      exact ⟨houtcome, htrials, rfl⟩
  | _ => cases hturn

/-- A turn tells of promises no more than a step does. -/
theorem Takes.tells (h : p.Takes events (.go p')) :
    Engine.Tells p.engine.heap p'.engine := by
  generalize hturn : Turn.go p' = turn at h
  cases h with
  | ask => cases hturn
  | finished => cases hturn
  | step hask htest hidle =>
      cases hturn
      exact Engine.tells_step p.engine (Control.isNotice_of_ne_ask hask)
  | opens hcontrol =>
      cases hturn
      rw [openTest]
      refine Engine.Silent.tells ?_
      dsimp only
      split
      · exact Engine.silent_call _ _ _ (.refl _)
      · exact Engine.silent_raise _ _ (.refl _)
  | promises handler hcontrol =>
      cases hturn
      refine Engine.Silent.tells ⟨(Heap.Keeps.refl _).makeBuiltin _ _, ?_⟩
      show p.engine.control.isNotice = false
      rw [hcontrol]
      rfl
  | attaches hcontrol =>
      cases hturn
      exact (Engine.silent_call _ _ _ (.refl _)).tells
  | refuses => cases hturn
  | works hcontrol =>
      cases hturn
      exact Engine.tells_startJob _ (.refl _)
  | ends => cases hturn

/-- The end of a test tells nothing. -/
theorem Takes.silent {name : String} {e : TestEnd} (h : p.Takes events (.ended name e p')) :
    Engine.Silent p.engine.heap p'.engine := by
  generalize hturn : Turn.ended name e p' = turn at h
  cases h with
  | refuses hcontrol =>
      cases hturn
      exact Engine.silent_finish (.refl _)
  | ends hcontrol =>
      cases hturn
      exact Engine.silent_finish (.refl _)
  | _ => cases hturn

/-- Only a script that waits for an answer tells something. -/
theorem Takes.quiet {turn : Turn} (h : p.Takes events turn)
    (hturn : ∀ q, turn ≠ .ask q) : p.engine.control.isNotice = false := by
  cases h with
  | ask => exact absurd rfl (hturn _)
  | finished houtcome =>
      refine Control.isNotice_of_ne_ask fun q hask => ?_
      rw [Engine.outcome?, hask] at houtcome
      cases houtcome
  | step hask => exact Control.isNotice_of_ne_ask hask
  | opens hcontrol | promises _ hcontrol | attaches hcontrol
  | refuses hcontrol | works hcontrol | ends hcontrol => rw [hcontrol]; rfl

/-! ### Results -/

end Process

end HttpSuite.Script
