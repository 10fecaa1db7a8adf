/-
HttpSuite/Proofs/Exchange/Failure.lean

What a failed exchange leaves behind.  An exchange can fail when some scripts have run before the
request, and these work on two stores with opposite rules: what a script does to the globals stays
whatever comes of the script, what it writes to the variables counts only when it succeeds.
`Played` tells both rules script by script, for a sandbox in which the evaluation of a script is any
function with a state of its own (`Setting.sandboxed`): so the statements hold for every outcome of
every script, and one script may come out differently from time to time.

Main result: a failed exchange keeps the overrides and the named responses, has neither a response
nor assertions nor scripts after it, and changes the store by the writes of the scripts that
succeeded alone; and what fails before it is sent is not sent (`runUnit_failure`).
-/
import HttpSuite.Proofs.Exchange.Course

namespace HttpSuite.Exchange

variable {σ τ : Type}

/-! ### Scripts in the sandbox -/

/-- How scripts are evaluated: from a source, the globals, a surface and a state to the end of the
script, what it left around it, and the next state. -/
abbrev Evaluation (τ : Type) :=
  String → Table String → Script.Surface → τ → Script.Ending × Script.Invocation × τ

/-- The setting whose scripts run in the sandbox and are evaluated in a given way. -/
def Setting.sandboxed (e : Setting σ τ) (l : Script.Limits) (play : Evaluation τ) : Setting σ τ :=
  { e with
    runScript := ⟨fun source globals surface t =>
      let (ending, i, t) := play source globals surface t
      let (result, globals) := Script.settle l (ending, i)
      (result, globals, t)⟩ }

/-- When scripts are evaluated by the engine, this is the setting in which a document is run. -/
theorem Setting.sandboxed_play (e : Setting σ τ) (l : Script.Limits) :
    e.sandboxed l (fun source globals surface t =>
      let (ending, i) := Script.play l source globals surface
      (ending, i, t)) = { e with runScript := Script.run l } :=
  rfl

/-- A session that scripts run in, as far as it concerns them. -/
structure Stage (τ : Type) where
  globals : Table String
  store : Table String
  sandbox : τ

/-- The part of a session that scripts before a request change. -/
def Session.stage (s : Session σ τ) : Stage τ := ⟨s.globals, s.vars.store, s.sandbox⟩

/-- The report of a script before a request that left `i` around it, with the reason if it failed.
-/
def reportOf (i : Script.Invocation) (failure : Option String) (writes : Table String) :
    ScriptReport :=
  ⟨.preRequest, { success := failure.isNone, logs := i.logs, tests := i.tests, failure, writes }⟩

/-- `Played e l play overrides t references reports t'`: the scripts of a list ran in the sandbox
before a request, one after the other.  A script whose source cannot be read changes nothing.  One
that fails hands its globals on and not its writes; one that succeeds hands on both. -/
inductive Played (e : Setting σ τ) (l : Script.Limits) (play : Evaluation τ)
    (overrides : Table String) :
    Stage τ → List ScriptReference → List ScriptReport → Stage τ → Prop
  | nil (t : Stage τ) : Played e l play overrides t [] [] t
  | unreadable {t t' reference references cause reports} :
      reference.source e.world.files e.directory = .error cause →
      Played e l play overrides t references reports t' →
      Played e l play overrides t (reference :: references)
        (⟨.preRequest, .failed cause.message⟩ :: reports) t'
  | failed {t t' reference references source ending i sandbox message reports} :
      reference.source e.world.files e.directory = .ok source →
      play source t.globals (.preRequest (t.store.insertAll overrides.entries)) t.sandbox =
        (ending, i, sandbox) →
      Script.failureOf l ending i = some message →
      Played e l play overrides ⟨i.globals, t.store, sandbox⟩ references reports t' →
      Played e l play overrides t (reference :: references)
        (reportOf i (some message) ∅ :: reports) t'
  | succeeded {t t' reference references source ending i sandbox reports} :
      reference.source e.world.files e.directory = .ok source →
      play source t.globals (.preRequest (t.store.insertAll overrides.entries)) t.sandbox =
        (ending, i, sandbox) →
      Script.failureOf l ending i = none →
      Played e l play overrides ⟨i.globals, t.store.insertAll i.writes.entries, sandbox⟩ references
        reports t' →
      Played e l play overrides t (reference :: references)
        (reportOf i none i.writes :: reports) t'

/-- A store after what those of some scripts that succeeded wrote to the variables, in order. -/
def storeAfter (store : Table String) (reports : List ScriptReport) : Table String :=
  (reports.filter (·.result.success)).foldl
    (fun t report => t.insertAll report.result.writes.entries) store

variable {e : Setting σ τ} {l : Script.Limits} {play : Evaluation τ}

/-- In the sandbox, scripts run by the two rules. -/
theorem RanBefore.played {s s' : Session σ τ} {references : List ScriptReference}
    {reports : List ScriptReport} (h : RanBefore (e.sandboxed l play) s references reports s') :
    Played e l play s.vars.overrides s.stage references reports s'.stage := by
  induction h with
  | nil s => exact .nil _
  | @cons s s' reference references result globals sandbox reports hrun _ ih =>
      -- the three ways of a script: no source, a failure, a success
      simp only [runReference, Setting.sandboxed] at hrun
      cases hsource : reference.source e.world.files e.directory with
      | error cause =>
          rw [hsource] at hrun
          obtain ⟨rfl, rfl, rfl⟩ := by simpa only [Prod.mk.injEq] using hrun
          exact .unreadable hsource ih
      | ok source =>
          rw [hsource] at hrun
          rcases hplay : play source s.globals (.preRequest s.vars.snapshot) s.sandbox with
            ⟨ending, i, sandbox⟩
          simp only [Script.settle, hplay, Prod.mk.injEq] at hrun
          obtain ⟨rfl, rfl, rfl⟩ := hrun
          cases hfailure : Script.failureOf l ending i with
          | none =>
              rw [hfailure] at ih
              exact .succeeded hsource hplay hfailure ih
          | some message =>
              rw [hfailure] at ih
              exact .failed hsource hplay hfailure ih

/-- What scripts in the sandbox do to the store is what those that succeeded wrote. -/
theorem Played.store_eq {overrides : Table String} {t t' : Stage τ}
    {references : List ScriptReference} {reports : List ScriptReport}
    (h : Played e l play overrides t references reports t') :
    t'.store = storeAfter t.store reports := by
  induction h with
  | nil t => rfl
  | unreadable _ _ ih => exact ih
  | failed _ _ _ _ ih => exact ih
  | succeeded _ _ _ _ ih => exact ih

/-! ### Failed exchanges -/

/-! The first letter of what is said of a failure tells where it happened. -/

theorem head_notBuilt (cause : Error) : (notBuilt cause).toList.head? = some 'F' := by
  unfold notBuilt
  simp only [String.toList_append]
  simp

theorem head_notSent (cause : Error) : (notSent cause).toList.head? = some 'R' := by
  unfold notSent
  simp only [String.toList_append]
  simp

/-- A request that was not sent is told otherwise than one that could not be made. -/
theorem notSent_ne_notBuilt (cause cause' : Error) : notSent cause ≠ notBuilt cause' := by
  intro h
  have hhead := head_notSent cause
  rw [h, head_notBuilt] at hhead
  exact absurd hhead (by decide)

/-- A request that was not sent is told otherwise than a script that failed before it. -/
theorem notSent_ne_scriptFailed (cause : Error) : notSent cause ≠ "Pre-request script failed" := by
  intro h
  have hhead := head_notSent cause
  rw [h] at hhead
  exact absurd hhead (by decide)

/-- A request that could not be made is told otherwise than a script that failed before it. -/
theorem notBuilt_ne_scriptFailed (cause : Error) :
    notBuilt cause ≠ "Pre-request script failed" := by
  intro h
  have hhead := head_notBuilt cause
  rw [h] at hhead
  exact absurd hhead (by decide)

/-- What a failed exchange went through: some scripts before the request, of which either the last
failed or none did and none was left. -/
theorem Course.of_error {s s' : Session σ τ} {number : Nat} {u : RequestUnit} {method : Method}
    {r : Result} {message : String} (h : Course e s number u method r s')
    (herror : r.error? = some message) :
    r.response? = none ∧ r.assertions = [] ∧
      ∃ ran rest s₁ generators, u.preScripts = ran ++ rest ∧ RanBefore e s ran r.scripts s₁ ∧
        s'.vars = { s₁.vars with generators } ∧
        (s'.globals = s₁.globals ∧ s'.sandbox = s₁.sandbox) ∧
        (message = "Pre-request script failed" ∧ LastFailed r.scripts ∨
          message ≠ "Pre-request script failed" ∧ rest = [] ∧ AllSucceeded r.scripts) := by
  cases h with
  | @scriptFailed ran rest before s₁ hsplit hran hlast =>
      obtain rfl : "Pre-request script failed" = message := Option.some.inj herror
      obtain ⟨generators, hvars⟩ := s₁.vars.substitute_snd e.world u.target
      exact ⟨rfl, rfl, ran, rest, s₁, generators, hsplit, hran, hvars, ⟨rfl, rfl⟩,
        .inl ⟨rfl, hlast⟩⟩
  | @notBuilt before s₁ cause vars hran hall hrequest =>
      obtain rfl : Exchange.notBuilt cause = message := Option.some.inj herror
      obtain ⟨generators, hvars⟩ := requestOf_snd (e := e) s₁ u method
      rw [hrequest] at hvars
      exact ⟨rfl, rfl, _, [], s₁, generators, (List.append_nil _).symm, hran, hvars,
        ⟨rfl, rfl⟩,
        .inr ⟨notBuilt_ne_scriptFailed cause, rfl, hall⟩⟩
  | @notSent before s₁ request vars cause transport hran hall hrequest hsend =>
      obtain rfl : Exchange.notSent cause = message := Option.some.inj herror
      obtain ⟨generators, hvars⟩ := requestOf_snd (e := e) s₁ u method
      rw [hrequest] at hvars
      exact ⟨rfl, rfl, _, [], s₁, generators, (List.append_nil _).symm, hran, hvars,
        ⟨rfl, rfl⟩,
        .inr ⟨notSent_ne_scriptFailed cause, rfl, hall⟩⟩
  | answered => exact absurd herror (by simp [Result.error?])

/-- Scripts before a request run the same whatever sends requests. -/
theorem RanBefore.withSend {s s' : Session σ τ} {references : List ScriptReference}
    {reports : List ScriptReport} (h : RanBefore e s references reports s')
    (send : Request → σ → Except Error Response × σ) :
    RanBefore { e with send } s references reports s' := by
  induction h with
  | nil s => exact .nil s
  | cons hrun _ ih => exact .cons hrun ih

/-- An exchange that fails before the request is sent goes the same way whatever sends requests. -/
theorem Course.of_unsent {s s' : Session σ τ} {number : Nat} {u : RequestUnit} {method : Method}
    {r : Result} {message : String} (h : Course e s number u method r s')
    (herror : r.error? = some message)
    (hunsent : message = "Pre-request script failed" ∨ ∃ cause, message = Exchange.notBuilt cause) :
    s'.transport = s.transport ∧
      ∀ send, Course { e with send } s number u method r s' := by
  cases h with
  | scriptFailed hsplit hran hlast =>
      obtain ⟨store, globals, sandbox, rfl⟩ := hran.frame
      exact ⟨rfl, fun send => .scriptFailed hsplit (hran.withSend send) hlast⟩
  | notBuilt hran hall hrequest =>
      obtain ⟨store, globals, sandbox, rfl⟩ := hran.frame
      exact ⟨rfl, fun send => .notBuilt (hran.withSend send) hall hrequest⟩
  | @notSent _ _ _ _ cause =>
      obtain rfl : Exchange.notSent cause = message := Option.some.inj herror
      rcases hunsent with h | ⟨cause', h⟩
      · exact absurd h (notSent_ne_scriptFailed cause)
      · exact absurd h (notSent_ne_notBuilt cause cause')
  | answered => simp [Result.error?] at herror

/-- **Failure atomicity**: an exchange that fails keeps the named responses and the overrides and
has neither a response nor assertions nor reports of scripts after it.  The scripts that ran are a
first part of those before the request, up to and with the one that failed if it was a script that
failed; they left the globals as they are now, and the store with the writes of those that
succeeded.  What fails before the request is sent goes the same way whatever sends requests.  A unit
without a method changes nothing and asks nobody. -/
theorem runUnit_failure (e : Setting σ τ) (l : Script.Limits) (play : Evaluation τ) (s : Session σ τ)
    (number : Nat) (u : RequestUnit) :
    let r := (runUnit (e.sandboxed l play) s number u).1
    let s' := (runUnit (e.sandboxed l play) s number u).2
    (∀ message, r.error? = some message →
      (s'.vars.responses = s.vars.responses ∧ s'.vars.overrides = s.vars.overrides) ∧
      (r.response? = none ∧ r.assertions = [] ∧
        ∀ report ∈ r.scripts, report.phase = .preRequest) ∧
      (∃ ran rest, u.preScripts = ran ++ rest ∧
        Played e l play s.vars.overrides s.stage ran r.scripts s'.stage ∧
        (message = "Pre-request script failed" ∧ LastFailed r.scripts ∨
          message ≠ "Pre-request script failed" ∧ rest = [] ∧ AllSucceeded r.scripts)) ∧
      s'.vars.store = storeAfter s.vars.store r.scripts ∧
      (message = "Pre-request script failed" ∨ (∃ cause, message = notBuilt cause) →
        s'.transport = s.transport ∧
          ∀ send, runUnit { e.sandboxed l play with send } s number u = (r, s'))) ∧
    (u.method = none →
      r.isSkipped = true ∧ s' = s ∧ ∀ e' : Setting σ τ, runUnit e' s number u = (r, s')) := by
  refine ⟨?_, ?_⟩
  · -- a failed exchange: what is said of it is read off its course
    intro message herror
    cases hmethod : u.method with
    | none => simp [runUnit, hmethod, Result.error?] at herror
    | some method =>
        have hrun : ∀ e : Setting σ τ, runUnit e s number u = carryOut e s number u method := by
          intro e
          simp only [runUnit, hmethod]
        rw [hrun] at herror ⊢
        rcases hcarry : carryOut (e.sandboxed l play) s number u method with ⟨r, s'⟩
        rw [hcarry] at herror
        simp only at herror ⊢
        have hcourse := carryOut_eq_iff.mp hcarry
        obtain ⟨hresponse, hassertions, ran, rest, s₁, generators, hsplit, hran, hvars,
          ⟨hglobals, hsandbox⟩, hstop⟩ := hcourse.of_error herror
        have hstage : s'.stage = s₁.stage := by
          simp only [Session.stage, hvars, hglobals, hsandbox]
        have hplayed := hran.played
        rw [← hstage] at hplayed
        refine ⟨?_, ⟨hresponse, hassertions, hran.phase⟩, ⟨ran, rest, hsplit, hplayed, hstop⟩,
          hplayed.store_eq, ?_⟩
        · obtain ⟨store, globals, sandbox, hframe⟩ := hran.frame
          simp only [hvars, hframe, and_self]
        · intro hunsent
          obtain ⟨htransport, hsame⟩ := hcourse.of_unsent herror hunsent
          refine ⟨htransport, fun send => ?_⟩
          rw [hrun]
          exact carryOut_eq_iff.mpr (hsame send)
  · -- a unit without a method
    intro hmethod
    have hrun : ∀ e : Setting σ τ, runUnit e s number u =
        ({ number, name := nameOf u, method := "", url := u.target, outcome := .skipped,
           success := true }, s) := by
      intro e
      simp only [runUnit, hmethod]
    rw [hrun]
    exact ⟨rfl, rfl, hrun⟩

/-- Two scripts write to both stores, and the second one fails: the write of the first one to the
variables is kept, and both writes to the globals are. -/
theorem runUnit_failure_second_script :
    let play : Evaluation Nat := fun source globals _ played =>
      if source = "first" then
        (.completed, { globals := globals.insert "g" "1", writes := Table.insert ∅ "x" "1" },
          played + 1)
      else
        (.threw "stop", { globals := globals.insert "h" "2", writes := Table.insert ∅ "x" "2" },
          played + 1)
    let e : Setting Nat Nat :=
      { world := {}, runScript := ⟨fun _ globals _ played => (.failed "", globals, played)⟩
        send := fun _ sent => (.error .emptyTarget, sent + 1) }
    let u : RequestUnit :=
      { method := some .get, preScripts := [.inline "first", .inline "second", .inline "third"] }
    let r := (runUnit (e.sandboxed {} play) ⟨{}, ∅, 0, 0⟩ 1 u).1
    let s' := (runUnit (e.sandboxed {} play) ⟨{}, ∅, 0, 0⟩ 1 u).2
    r.error? = some "Pre-request script failed" ∧ s'.vars.store = storeAfter ∅ r.scripts ∧
      s'.transport = 0 ∧ s'.vars.store.entries = [("x", "1")] ∧
      s'.globals.entries = [("g", "1"), ("h", "2")] ∧ s'.sandbox = 2 := by
  intro play e u r s'
  have herror : r.error? = some "Pre-request script failed" := rfl
  obtain ⟨-, -, -, hstore, hunsent⟩ :=
    (runUnit_failure e {} play ⟨{}, ∅, 0, 0⟩ 1 u).1 "Pre-request script failed" herror
  refine ⟨herror, hstore, (hunsent (.inl rfl)).1, ?_, by decide, rfl⟩
  rw [hstore]
  decide

end HttpSuite.Exchange
