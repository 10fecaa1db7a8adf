/-
HttpSuite/Proofs/Exchange/Recording.lean

What a run sends, and what it keeps.  To see the requests of a run, what sends them is made to note
them down (`Setting.recording`).  The run goes the same way then, so that the notes are about the
run without them (`runFrom_recording`).  What is noted down is told by a relation that knows when a
unit comes to its request:

    SendsAll e s number units requests

The units are carried out one after the other in the sessions that those before them left, and each
one whose scripts succeed and whose request can be made sends this request, once, whatever came of
the units before.

Main result: a run has one result for each unit, in order, and sends what `SendsAll` says, and then
the record under a name is that of the last unit with this name that got a response
(`run_recording`).
-/
import HttpSuite.Proofs.Exchange.Failure
import HttpSuite.Proofs.Exchange.Provenance

namespace HttpSuite.Exchange

variable {σ τ : Type}

/-! ### Notes -/

/-- The setting in which what sends requests notes them down. -/
def Setting.recording (e : Setting σ τ) : Setting (σ × List Request) τ where
  world := e.world
  directory := e.directory
  runScript := e.runScript
  send request t :=
    let (response, transport) := e.send request t.1
    (response, transport, t.2 ++ [request])

/-- A session with the requests that were noted down. -/
def Session.recorded (s : Session σ τ) (sent : List Request) : Session (σ × List Request) τ where
  vars := s.vars
  globals := s.globals
  transport := (s.transport, sent)
  sandbox := s.sandbox

variable {e : Setting σ τ}

/-- Scripts before a request do not see the notes. -/
theorem RanBefore.recorded {s s' : Session σ τ} {references : List ScriptReference}
    {reports : List ScriptReport} (h : RanBefore e s references reports s')
    (sent : List Request) :
    RanBefore e.recording (s.recorded sent) references reports (s'.recorded sent) := by
  induction h with
  | nil s => exact .nil _
  | cons hrun _ ih => exact .cons hrun ih

/-- Scripts after a response do not see the notes. -/
theorem RanAfter.recorded {record : ResponseRecord} {g g' : Table String × τ}
    {references : List ScriptReference} {reports : List ScriptReport}
    (h : RanAfter e record g references reports g') :
    RanAfter e.recording record g references reports g' := by
  induction h with
  | nil g => exact .nil _
  | cons hrun _ ih => exact .cons hrun ih

/-! ### Requests of units -/

variable (e) in
/-- `Sends e s u request`: in the session `s` the scripts before the request of the unit `u` all
succeed, and this is the request that is made. -/
inductive Sends (s : Session σ τ) (u : RequestUnit) (request : Request) : Prop
  | intro {method before s₁ vars} :
      u.method = some method → RanBefore e s u.preScripts before s₁ → AllSucceeded before →
      requestOf e s₁ u method = (.ok request, vars) → Sends s u request

variable (e) in
/-- `SendsAll e s number units requests`: the units, carried out one after the other from the
session `s` on and counted from `number` on, send these requests. -/
inductive SendsAll : Session σ τ → Nat → List RequestUnit → List Request → Prop
  | nil (s : Session σ τ) (number : Nat) : SendsAll s number [] []
  | sends {s number u request units requests} :
      Sends e s u request → SendsAll (runUnit e s number u).2 (number + 1) units requests →
      SendsAll s number (u :: units) (request :: requests)
  | silent {s number u units requests} :
      (∀ request, ¬ Sends e s u request) →
      SendsAll (runUnit e s number u).2 (number + 1) units requests →
      SendsAll s number (u :: units) requests

/-- The headers of a request are those of its unit, with their placeholders filled. -/
theorem map_fst_fillHeaders (w : World) (v : VariableState) (headers : Headers) :
    (fillHeaders w v headers).1.map (·.1) = headers.map (·.1) := by
  induction headers generalizing v with
  | nil => rfl
  | cons header rest ih => exact congrArg (header.1 :: ·) (ih _)

theorem Sends.headers {s : Session σ τ} {u : RequestUnit} {request : Request}
    (h : Sends e s u request) : request.headers.map (·.1) = u.headers.map (·.1) := by
  obtain ⟨-, -, -, hrequest⟩ := h
  simp only [requestOf, build] at hrequest
  split at hrequest
  · simp at hrequest
  · have hbody := (Prod.mk.inj hrequest).1
    simp only [Except.map] at hbody
    split at hbody
    · simp at hbody
    · obtain rfl := Except.ok.inj hbody
      exact map_fst_fillHeaders _ _ _

/-- Scripts that all succeed leave one session. -/
theorem RanBefore.unique {s s₁ s₂ : Session σ τ} {references : List ScriptReference}
    {reports₁ reports₂ : List ScriptReport} (h₁ : RanBefore e s references reports₁ s₁)
    (h₂ : RanBefore e s references reports₂ s₂) (hall₁ : AllSucceeded reports₁)
    (hall₂ : AllSucceeded reports₂) : s₁ = s₂ := by
  have heq := (h₁.runPreAll_eq hall₁).symm.trans (h₂.runPreAll_eq hall₂)
  exact (Prod.mk.inj (Prod.mk.inj heq).2).2

/-- **One exchange**: with notes it goes the same way, and its request is noted down if it comes to
that. -/
theorem Course.recorded {s s' : Session σ τ} {number : Nat} {u : RequestUnit} {method : Method}
    {r : Result} (h : Course e s number u method r s') (hmethod : u.method = some method)
    (sent : List Request) :
    (∃ request, Sends e s u request ∧
      Course e.recording (s.recorded sent) number u method r (s'.recorded (sent ++ [request]))) ∨
    (∀ request, ¬ Sends e s u request) ∧
      Course e.recording (s.recorded sent) number u method r (s'.recorded sent) := by
  cases h with
  | scriptFailed hsplit hran hlast =>
      refine .inr ⟨?_, .scriptFailed hsplit (hran.recorded sent) hlast⟩
      rintro request ⟨-, hran', hall, -⟩
      -- the scripts would have to stop and not to stop
      have hstop := hran.runPreAll_append_eq hlast
      have hgo := hran'.runPreAll_eq hall
      rw [hsplit, hstop] at hgo
      simp at hgo
  | notBuilt hran hall hrequest =>
      refine .inr ⟨?_, .notBuilt (hran.recorded sent) hall hrequest⟩
      rintro request ⟨hmethod', hran', hall', hrequest'⟩
      -- the scripts leave one session, and it makes one request or none
      obtain rfl := Option.some.inj (hmethod.symm.trans hmethod')
      obtain rfl := hran.unique hran' hall hall'
      rw [hrequest] at hrequest'
      simp at hrequest'
  | @notSent before s₁ request vars cause transport hran hall hrequest hsend =>
      refine .inl ⟨request, .intro hmethod hran hall hrequest, ?_⟩
      refine .notSent (hran.recorded sent) hall hrequest ?_
      simp [Setting.recording, Session.recorded, hsend]
  | @answered before s₁ request vars response transport after globals sandbox hran hall hrequest
      hsend hafter =>
      refine .inl ⟨request, .intro hmethod hran hall hrequest, ?_⟩
      refine .answered (hran.recorded sent) hall hrequest ?_ hafter.recorded
      simp [Setting.recording, Session.recorded, hsend]

theorem runUnit_recording (s : Session σ τ) (number : Nat) (u : RequestUnit)
    (sent : List Request) :
    (∃ request, Sends e s u request ∧ runUnit e.recording (s.recorded sent) number u =
      ((runUnit e s number u).1, (runUnit e s number u).2.recorded (sent ++ [request]))) ∨
    (∀ request, ¬ Sends e s u request) ∧ runUnit e.recording (s.recorded sent) number u =
      ((runUnit e s number u).1, (runUnit e s number u).2.recorded sent) := by
  cases hmethod : u.method with
  | none =>
      refine .inr ⟨?_, by simp only [runUnit, hmethod]⟩
      rintro request ⟨hmethod', -, -, -⟩
      simp [hmethod] at hmethod'
  | some method =>
      rcases hrun : runUnit e s number u with ⟨r, s'⟩
      rcases ((runUnit_eq_iff hmethod).mp hrun).recorded hmethod sent with
        ⟨request, hsends, hcourse⟩ | ⟨hsilent, hcourse⟩
      · exact .inl ⟨request, hsends, (runUnit_eq_iff hmethod).mpr hcourse⟩
      · exact .inr ⟨hsilent, (runUnit_eq_iff hmethod).mpr hcourse⟩

/-! ### Runs -/

/-- **Notes**: with notes a run goes the same way, and notes down what its units send. -/
theorem runFrom_recording (s : Session σ τ) (number : Nat) (units : List RequestUnit)
    (sent : List Request) :
    ∃ requests, SendsAll e s number units requests ∧
      runFrom e.recording (s.recorded sent) number units =
        ((runFrom e s number units).1,
          (runFrom e s number units).2.recorded (sent ++ requests)) := by
  induction units generalizing s number sent with
  | nil => exact ⟨[], .nil s number, by rw [List.append_nil]; rfl⟩
  | cons u rest ih =>
      simp only [runFrom]
      rcases runUnit_recording s number u sent with
        ⟨request, hsends, hunit⟩ | ⟨hsilent, hunit⟩
      · obtain ⟨requests, hrest, hrun⟩ :=
          ih (runUnit e s number u).2 (number + 1) (sent ++ [request])
        refine ⟨request :: requests, .sends hsends hrest, ?_⟩
        rw [hunit, hrun]
        simp
      · obtain ⟨requests, hrest, hrun⟩ := ih (runUnit e s number u).2 (number + 1) sent
        refine ⟨requests, .silent hsilent hrest, ?_⟩
        rw [hunit, hrun]

variable (e)

/-- The results of a run are those of its units in order, each in the session that the units before
it left. -/
theorem runFrom_fst_eq_mapIdx (s : Session σ τ) (number : Nat) (units : List RequestUnit) :
    (runFrom e s number units).1 = units.mapIdx fun k u =>
      (runUnit e (runFrom e s number (units.take k)).2 (number + k) u).1 := by
  induction units generalizing s number with
  | nil => rfl
  | cons u rest ih =>
      rw [List.mapIdx_cons]
      refine congrArg ((runUnit e s number u).1 :: ·) ((ih _ (number + 1)).trans ?_)
      refine congrArg (List.mapIdx · rest) (funext fun k => funext fun u' => ?_)
      rw [Nat.add_right_comm]
      rfl

theorem runUnit_number (s : Session σ τ) (number : Nat) (u : RequestUnit) :
    (runUnit e s number u).1.number = number := by
  cases hmethod : u.method with
  | none => simp only [runUnit, hmethod]
  | some method =>
      rcases hrun : runUnit e s number u with ⟨r, s'⟩
      cases (runUnit_eq_iff hmethod).mp hrun <;> rfl

theorem map_number_runFrom (s : Session σ τ) (number : Nat) (units : List RequestUnit) :
    (runFrom e s number units).1.map (·.number) = List.range' number units.length := by
  induction units generalizing s number with
  | nil => rfl
  | cons u rest ih =>
      rw [List.length_cons, List.range'_succ, ← ih (runUnit e s number u).2 (number + 1)]
      exact congrArg (· :: _) (runUnit_number e s number u)

/-! ### Named responses -/

/-- The record that an exchange leaves under a name. -/
def recordFor (id : String) (exchange : RequestUnit × Result) : Option ResponseRecord :=
  if exchange.1.requestId = some id then exchange.2.response?.map (·.record) else none

/-- Without a response the records stay as they are. -/
theorem runUnit_responses_of_none {s : Session σ τ} {number : Nat} {u : RequestUnit}
    (h : (runUnit e s number u).1.response? = none) :
    (runUnit e s number u).2.vars.responses = s.vars.responses := by
  cases hmethod : u.method with
  | none => simp only [runUnit, hmethod]
  | some method =>
      rcases hrun : runUnit e s number u with ⟨r, s'⟩
      rw [hrun] at h
      have hcourse := (runUnit_eq_iff hmethod).mp hrun
      have hkept : ∀ message, r.error? = some message → s'.vars.responses = s.vars.responses := by
        intro message herror
        obtain ⟨-, -, ran, rest, s₁, generators, -, hran, hvars, -⟩ := hcourse.of_error herror
        obtain ⟨store, globals, sandbox, rfl⟩ := hran.frame
        rw [hvars]
      cases hcourse with
      | scriptFailed => exact hkept _ rfl
      | notBuilt => exact hkept _ rfl
      | notSent => exact hkept _ rfl
      | answered => simp [Result.response?] at h

/-- **One unit**: it leaves the record of its response under its name, and the others as they are.
-/
theorem runUnit_responses (s : Session σ τ) (number : Nat) (u : RequestUnit) (id : String) :
    (runUnit e s number u).2.vars.responses.get? id =
      (recordFor id (u, (runUnit e s number u).1)).or (s.vars.responses.get? id) := by
  cases hresponse : (runUnit e s number u).1.response? with
  | none => simp [runUnit_responses_of_none e hresponse, recordFor, hresponse]
  | some response =>
      obtain ⟨before, after, s₁, generators, -, hran, -, hvars⟩ := exists_of_response? hresponse
      obtain ⟨store, globals, sandbox, rfl⟩ := hran.frame
      rw [hvars, keep_eq, recordFor, hresponse]
      cases hid : u.requestId with
      | none => simp
      | some id' =>
          rw [Option.elim_some, Table.get?_insert]
          -- a record is kept under the one name, for which it takes the place of the last one
          by_cases h : id = id'
          · simp [h]
          · simp [h, Ne.symm h]

/-- After a run the record under a name is the last one that a unit left there. -/
theorem runFrom_responses (s : Session σ τ) (number : Nat) (units : List RequestUnit)
    (id : String) :
    (runFrom e s number units).2.vars.responses.get? id =
      ((units.zip (runFrom e s number units).1).reverse.findSome? (recordFor id)).or
        (s.vars.responses.get? id) := by
  induction units generalizing s number with
  | nil => rfl
  | cons u rest ih =>
      simp only [runFrom, List.zip_cons_cons, List.reverse_cons, List.findSome?_append]
      rw [ih, runUnit_responses, ← Option.or_assoc]
      congr 1
      simp

/-- **Runs**: a run has one result for each unit, numbered in order from one on; each unit is
carried out in the session that those before it left, whatever came of them.  The requests that are
noted down are those of the units that come to theirs, in order and once each, with the names of
their headers.  After the run the record under a name is that of the last unit with this name that
got a response; without such a unit, it is the one before the run. -/
theorem run_recording (s : Session σ τ) (sent : List Request) (units : List RequestUnit) :
    let results := (run e s units).1
    let s' := (run e s units).2
    (results.map (·.number) = List.range' 1 units.length ∧
      results = units.mapIdx fun k u =>
        (runUnit e (run e s (units.take k)).2 (1 + k) u).1) ∧
    (∃ requests, SendsAll e s 1 units requests ∧
      run e.recording (s.recorded sent) units = (results, s'.recorded (sent ++ requests))) ∧
    (∀ s₁ u request,
      Sends e s₁ u request → request.headers.map (·.1) = u.headers.map (·.1)) ∧
    ∀ id, s'.vars.responses.get? id =
      ((units.zip results).reverse.findSome? (recordFor id)).or (s.vars.responses.get? id) :=
  ⟨⟨map_number_runFrom e s 1 units, runFrom_fst_eq_mapIdx e s 1 units⟩,
    runFrom_recording s 1 units sent, fun _ _ _ => Sends.headers, runFrom_responses e s 1 units⟩

end HttpSuite.Exchange
