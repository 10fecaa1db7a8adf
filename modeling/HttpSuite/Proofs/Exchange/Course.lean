/-
HttpSuite/Proofs/Exchange/Course.lean

The course of an exchange.  Carrying out a unit is a function with four ends: a script before the
request fails, the request cannot be made, no response comes, a response comes.  Here each end is
said once, with all that was done on the way to it (`Course`, `carryOut_eq_iff`), so that a
statement about an exchange is four short cases and no further look at the stages.

The scripts on the way are told by two relations that know nothing of the places where a run stops:

    RanBefore e s references reports s'      RanAfter e record g references reports g'

say that each script of the list ran on what the one before it left: before the request that is a
session, after the response the globals and the state of what runs scripts.  `runPreAll` is then the
longest part of its list up to the first script that fails (`runPreAll_cases`), and `runPostAll` is
all of its list (`runPostAll_eq_iff`).
-/
import HttpSuite.Exchange.Run
import HttpSuite.Proofs.Variables.Frame

namespace HttpSuite.Exchange

variable {σ τ : Type} (e : Setting σ τ)

/-! ### Scripts before the request -/

/-- A session with what a script left: the globals, the state of what runs scripts, and its writes
added to the store. -/
def Session.afterScript (s : Session σ τ) (result : Script.Result) (globals : Table String)
    (sandbox : τ) : Session σ τ :=
  { s with
    globals, sandbox
    vars := { s.vars with store := s.vars.store.insertAll result.writes.entries } }

/-- `RanBefore e s references reports s'`: the scripts of a list ran before a request, one after the
other, from the session `s` to the session `s'`. -/
inductive RanBefore :
    Session σ τ → List ScriptReference → List ScriptReport → Session σ τ → Prop
  | nil (s : Session σ τ) : RanBefore s [] [] s
  | cons {s s' reference references result globals sandbox reports} :
      runReference e reference s.globals (.preRequest s.vars.snapshot) s.sandbox =
        (result, globals, sandbox) →
      RanBefore (s.afterScript result globals sandbox) references reports s' →
      RanBefore s (reference :: references) (⟨.preRequest, result⟩ :: reports) s'

/-- All scripts of some reports succeeded. -/
def AllSucceeded (reports : List ScriptReport) : Prop :=
  ∀ report ∈ reports, report.result.success = true

/-- The last script of some reports failed, and no other. -/
def LastFailed (reports : List ScriptReport) : Prop :=
  ∃ before last, reports = before ++ [last] ∧ AllSucceeded before ∧ last.result.success = false

@[simp] theorem allSucceeded_nil : AllSucceeded [] := by simp [AllSucceeded]

@[simp] theorem allSucceeded_cons {report : ScriptReport} {reports : List ScriptReport} :
    AllSucceeded (report :: reports) ↔ report.result.success = true ∧ AllSucceeded reports := by
  simp [AllSucceeded]

theorem LastFailed.not_allSucceeded {reports : List ScriptReport} (h : LastFailed reports) :
    ¬ AllSucceeded reports := by
  obtain ⟨before, last, rfl, -, hlast⟩ := h
  intro hall
  have := hall last (by simp)
  simp [hlast] at this

theorem lastFailed_cons_iff {report : ScriptReport} {reports : List ScriptReport} :
    LastFailed (report :: reports) ↔
      (report.result.success = false ∧ reports = []) ∨
        (report.result.success = true ∧ LastFailed reports) := by
  constructor
  · rintro ⟨before, last, h, hbefore, hlast⟩
    cases before with
    | nil =>
        obtain ⟨rfl, rfl⟩ : report = last ∧ reports = [] := by simpa using h
        exact .inl ⟨hlast, rfl⟩
    | cons first before =>
        obtain ⟨rfl, rfl⟩ : report = first ∧ reports = before ++ [last] := by simpa using h
        obtain ⟨hfirst, hbefore⟩ := allSucceeded_cons.mp hbefore
        exact .inr ⟨hfirst, before, last, rfl, hbefore, hlast⟩
  · rintro (⟨hr, rfl⟩ | ⟨hr, before, last, rfl, hbefore, hlast⟩)
    · exact ⟨[], report, rfl, allSucceeded_nil, hr⟩
    · exact ⟨report :: before, last, rfl, allSucceeded_cons.mpr ⟨hr, hbefore⟩, hlast⟩

variable {e}

theorem runPre_eq {s : Session σ τ} {reference : ScriptReference} {result : Script.Result}
    {globals : Table String} {sandbox : τ}
    (h : runReference e reference s.globals (.preRequest s.vars.snapshot) s.sandbox =
      (result, globals, sandbox)) :
    runPre e s reference = (⟨.preRequest, result⟩, s.afterScript result globals sandbox) := by
  simp [runPre, h, Session.afterScript]

/-- Running the scripts before a request either runs all of them, and all succeed, or stops behind
the first that fails. -/
theorem runPreAll_cases {s s' : Session σ τ} {references : List ScriptReference}
    {reports : List ScriptReport} {failed : Bool}
    (h : runPreAll e s references = (reports, failed, s')) :
    (failed = false ∧ RanBefore e s references reports s' ∧ AllSucceeded reports) ∨
      (failed = true ∧ ∃ ran rest, references = ran ++ rest ∧ RanBefore e s ran reports s' ∧
        LastFailed reports) := by
  induction references generalizing s reports with
  | nil =>
      obtain ⟨rfl, rfl, rfl⟩ : [] = reports ∧ false = failed ∧ s = s' := by
        simpa [runPreAll] using h
      exact .inl ⟨rfl, .nil s, allSucceeded_nil⟩
  | cons reference rest ih =>
      rcases hrun : runReference e reference s.globals (.preRequest s.vars.snapshot) s.sandbox with
        ⟨result, globals, sandbox⟩
      simp only [runPreAll, runPre_eq hrun] at h
      rcases hs : result.success with - | -
      · -- the script fails: nothing runs behind it
        simp only [hs, Bool.false_eq_true, if_false] at h
        obtain ⟨rfl, rfl, rfl⟩ := by simpa only [Prod.mk.injEq] using h
        refine .inr ⟨rfl, [reference], rest, rfl, .cons hrun (.nil _), ?_⟩
        exact lastFailed_cons_iff.mpr (.inl ⟨hs, rfl⟩)
      · -- the script succeeds: the others run in the session that it leaves
        simp only [hs, if_true] at h
        rcases hrest : runPreAll e (s.afterScript result globals sandbox) rest with
          ⟨reports', failed', s''⟩
        rw [hrest] at h
        obtain ⟨rfl, rfl, rfl⟩ := by simpa only [Prod.mk.injEq] using h
        rcases ih hrest with ⟨rfl, hran, hall⟩ | ⟨rfl, ran, left, rfl, hran, hlast⟩
        · exact .inl ⟨rfl, .cons hrun hran, allSucceeded_cons.mpr ⟨hs, hall⟩⟩
        · exact .inr ⟨rfl, reference :: ran, left, rfl, .cons hrun hran,
            lastFailed_cons_iff.mpr (.inr ⟨hs, hlast⟩)⟩

/-- Scripts that all succeed are all run. -/
theorem RanBefore.runPreAll_eq {s s' : Session σ τ} {references : List ScriptReference}
    {reports : List ScriptReport} (h : RanBefore e s references reports s')
    (hall : AllSucceeded reports) : runPreAll e s references = (reports, false, s') := by
  induction h with
  | nil s => rfl
  | cons hrun _ ih =>
      obtain ⟨hr, hall⟩ := allSucceeded_cons.mp hall
      simp only at hr
      simp [runPreAll, runPre_eq hrun, hr, ih hall]

/-- Behind the first script that fails, none is run. -/
theorem RanBefore.runPreAll_append_eq {s s' : Session σ τ} {ran : List ScriptReference}
    {reports : List ScriptReport} (h : RanBefore e s ran reports s') (hlast : LastFailed reports)
    (rest : List ScriptReference) : runPreAll e s (ran ++ rest) = (reports, true, s') := by
  induction h with
  | nil s => exact absurd allSucceeded_nil hlast.not_allSucceeded
  | cons hrun hran ih =>
      rcases lastFailed_cons_iff.mp hlast with ⟨hr, rfl⟩ | ⟨hr, hlast⟩
      · cases hran
        simp only at hr
        simp [runPreAll, runPre_eq hrun, hr]
      · simp only at hr
        simp [runPreAll, runPre_eq hrun, hr, ih hlast]

/-- Scripts before a request leave the overrides, the named responses, the generators and the
transport alone. -/
theorem RanBefore.frame {s s' : Session σ τ} {references : List ScriptReference}
    {reports : List ScriptReport} (h : RanBefore e s references reports s') :
    ∃ store globals sandbox,
      s' = { s with globals, sandbox, vars := { s.vars with store } } := by
  induction h with
  | nil s => exact ⟨s.vars.store, s.globals, s.sandbox, rfl⟩
  | cons _ _ ih =>
      obtain ⟨store, globals, sandbox, rfl⟩ := ih
      exact ⟨store, globals, sandbox, rfl⟩

/-- What ran before a request is reported so. -/
theorem RanBefore.phase {s s' : Session σ τ} {references : List ScriptReference}
    {reports : List ScriptReport} (h : RanBefore e s references reports s') :
    ∀ report ∈ reports, report.phase = .preRequest := by
  induction h with
  | nil s => simp
  | cons _ _ ih => simpa using ih

/-! ### Scripts after the response -/

variable (e) in
/-- `RanAfter e record g references reports g'`: the scripts of a list ran after a response, one after
the other, from some globals and a state of what runs scripts to others. -/
inductive RanAfter (record : ResponseRecord) :
    Table String × τ → List ScriptReference → List ScriptReport → Table String × τ → Prop
  | nil (g : Table String × τ) : RanAfter record g [] [] g
  | cons {g g₁ g' reference references result reports} :
      runReference e reference g.1 (.postResponse record) g.2 = (result, g₁) →
      RanAfter record g₁ references reports g' →
      RanAfter record g (reference :: references) (⟨.postResponse, result⟩ :: reports) g'

/-- Running the scripts after a response runs all of them and changes the globals and the state of
what runs scripts alone. -/
theorem runPostAll_eq_iff {record : ResponseRecord} {s s' : Session σ τ}
    {references : List ScriptReference} {reports : List ScriptReport} :
    runPostAll e record s references = (reports, s') ↔
      ∃ globals sandbox,
        RanAfter e record (s.globals, s.sandbox) references reports (globals, sandbox) ∧
          s' = { s with globals, sandbox } := by
  constructor
  · intro h
    induction references generalizing s reports with
    | nil =>
        obtain ⟨rfl, rfl⟩ : [] = reports ∧ s = s' := by simpa [runPostAll] using h
        exact ⟨s.globals, s.sandbox, .nil _, rfl⟩
    | cons reference rest ih =>
        rcases hrun : runReference e reference s.globals (.postResponse record) s.sandbox with
          ⟨result, globals, sandbox⟩
        rcases hrest : runPostAll e record { s with globals, sandbox } rest with ⟨reports', s''⟩
        simp only [runPostAll, runPost, hrun, hrest, Prod.mk.injEq] at h
        obtain ⟨rfl, rfl⟩ := h
        obtain ⟨globals', sandbox', hran, hs⟩ := ih hrest
        exact ⟨globals', sandbox', .cons hrun hran, hs⟩
  · rintro ⟨globals', sandbox', hran, rfl⟩
    -- the induction is on how the scripts ran, from globals and a state that are any
    generalize hg : (s.globals, s.sandbox) = g at hran
    generalize hg' : (globals', sandbox') = g' at hran
    induction hran generalizing s with
    | nil g =>
        obtain ⟨rfl, rfl⟩ := Prod.mk.inj (hg.trans hg'.symm)
        rfl
    | @cons g g₁ g' reference references result reports hrun _ ih =>
        subst hg
        have hrest := ih (s := { s with globals := g₁.1, sandbox := g₁.2 }) rfl hg'
        simp [runPostAll, runPost, hrun, hrest]

/-! ### The request -/

variable (e) in
/-- The target of a unit with its placeholders filled. -/
def urlOf (s : Session σ τ) (u : RequestUnit) : String := (s.vars.substitute e.world u.target).1

variable (e) in
/-- The request of a unit, and the variables after its placeholders are filled. -/
def requestOf (s : Session σ τ) (u : RequestUnit) (method : Method) :
    Except Error Request × VariableState :=
  let (url, vars) := s.vars.substitute e.world u.target
  build e vars u method url

/-- Filling headers changes at most the generators. -/
theorem fillHeaders_snd (w : World) (headers : Headers) (v : VariableState) :
    ∃ generators, (fillHeaders w v headers).2 = { v with generators } := by
  induction headers generalizing v with
  | nil => exact ⟨v.generators, rfl⟩
  | cons header rest ih =>
      obtain ⟨name, value⟩ := header
      obtain ⟨generators, hvalue⟩ := v.substitute_snd w value
      obtain ⟨generators', hrest⟩ := ih { v with generators }
      exact ⟨generators', by simp only [fillHeaders, hvalue, hrest]⟩

/-- Filling a body changes at most the generators. -/
theorem fillBody_snd (directory : Option String) (w : World) (v : VariableState)
    (body : RequestBody) :
    ∃ generators, (fillBody directory w v body).2 = { v with generators } := by
  cases body with
  | none => exact ⟨v.generators, rfl⟩
  | inline text => exact v.substitute_snd w text
  | file path => exact ⟨v.generators, rfl⟩

/-- Making a request changes at most the generators. -/
theorem requestOf_snd (s : Session σ τ) (u : RequestUnit) (method : Method) :
    ∃ generators, (requestOf e s u method).2 = { s.vars with generators } := by
  obtain ⟨generators, htarget⟩ := s.vars.substitute_snd e.world u.target
  simp only [requestOf, htarget, build]
  split
  · exact ⟨generators, rfl⟩
  · obtain ⟨generators', hheaders⟩ :=
      fillHeaders_snd e.world u.headers { s.vars with generators }
    simp only [hheaders]
    exact fillBody_snd e.directory e.world { s.vars with generators := generators' } u.body

/-! ### The four ends of an exchange -/

variable (e) in
/-- `Course e s number u method r s'`: carrying out a unit with a method in the session `s` ends
with the result `r` in the session `s'`. -/
inductive Course (s : Session σ τ) (number : Nat) (u : RequestUnit) (method : Method) :
    Result → Session σ τ → Prop
  /-- A script before the request fails; those behind it do not run. -/
  | scriptFailed {ran rest before s₁} :
      u.preScripts = ran ++ rest → RanBefore e s ran before s₁ → LastFailed before →
      Course s number u method
        (failure number u method (urlOf e s₁ u) "Pre-request script failed" before)
        { s₁ with vars := (s₁.vars.substitute e.world u.target).2 }
  /-- The request cannot be made. -/
  | notBuilt {before s₁ cause vars} :
      RanBefore e s u.preScripts before s₁ → AllSucceeded before →
      requestOf e s₁ u method = (.error cause, vars) →
      Course s number u method (failure number u method (urlOf e s₁ u) (notBuilt cause) before)
        { s₁ with vars }
  /-- The request gets no response. -/
  | notSent {before s₁ request vars cause transport} :
      RanBefore e s u.preScripts before s₁ → AllSucceeded before →
      requestOf e s₁ u method = (.ok request, vars) →
      e.send request s₁.transport = (.error cause, transport) →
      Course s number u method (failure number u method (urlOf e s₁ u) (notSent cause) before)
        { s₁ with vars, transport }
  /-- The request gets a response, and the scripts after it run. -/
  | answered {before s₁ request vars response transport after globals sandbox} :
      RanBefore e s u.preScripts before s₁ → AllSucceeded before →
      requestOf e s₁ u method = (.ok request, vars) →
      e.send request s₁.transport = (.ok response, transport) →
      RanAfter e response.record (s₁.globals, s₁.sandbox) u.postScripts after (globals, sandbox) →
      Course s number u method
        { number, name := nameOf u, method := method.text, url := urlOf e s₁ u
          outcome := .answered response
          success := verdict response (assertionsOf u response) (before ++ after)
          assertions := assertionsOf u response
          scripts := before ++ after }
        { vars := keep u response.record vars, globals, transport, sandbox }

/-- Carrying out a unit is described by its course. -/
theorem carryOut_eq_iff {s s' : Session σ τ} {number : Nat} {u : RequestUnit} {method : Method}
    {r : Result} :
    carryOut e s number u method = (r, s') ↔ Course e s number u method r s' := by
  constructor
  · intro h
    rcases hpre : runPreAll e s u.preScripts with ⟨before, failed, s₁⟩
    simp only [carryOut, hpre] at h
    rcases runPreAll_cases hpre with ⟨rfl, hran, hall⟩ | ⟨rfl, ran, rest, hsplit, hran, hlast⟩
    · -- no script failed: the request is made of the target that the report shows
      simp only [Bool.false_eq_true, if_false] at h
      rcases hrequest : requestOf e s₁ u method with ⟨request, vars⟩
      have hbuild : build e (s₁.vars.substitute e.world u.target).2 u method (urlOf e s₁ u) =
          (request, vars) := hrequest
      simp only [urlOf] at hbuild
      rw [hbuild] at h
      cases request with
      | error cause =>
          obtain ⟨rfl, rfl⟩ := by simpa only [Prod.mk.injEq] using h
          exact .notBuilt hran hall hrequest
      | ok request =>
          rcases hsend : e.send request s₁.transport with ⟨response, transport⟩
          simp only [hsend] at h
          cases response with
          | error cause =>
              obtain ⟨rfl, rfl⟩ := by simpa only [Prod.mk.injEq] using h
              exact .notSent hran hall hrequest hsend
          | ok response =>
              -- the response is kept before the scripts after it run
              rcases hpost : runPostAll e response.record
                { s₁ with vars := keep u response.record vars, transport } u.postScripts with
                ⟨after, s₂⟩
              simp only [conclude, hpost] at h
              obtain ⟨globals, sandbox, hafter, rfl⟩ := runPostAll_eq_iff.mp hpost
              obtain ⟨rfl, rfl⟩ := by simpa only [Prod.mk.injEq] using h
              exact .answered hran hall hrequest hsend hafter
    · simp only [if_true] at h
      obtain ⟨rfl, rfl⟩ := by simpa only [Prod.mk.injEq] using h
      exact .scriptFailed hsplit hran hlast
  · intro h
    cases h with
    | scriptFailed hsplit hran hlast =>
        rw [carryOut, hsplit, hran.runPreAll_append_eq hlast]
        rfl
    | notBuilt hran hall hrequest =>
        simp only [requestOf] at hrequest
        simp [carryOut, hran.runPreAll_eq hall, hrequest, urlOf]
    | notSent hran hall hrequest hsend =>
        simp only [requestOf] at hrequest
        simp [carryOut, hran.runPreAll_eq hall, hrequest, hsend, urlOf]
    | @answered before s₁ request vars response transport after globals sandbox hran hall hrequest
        hsend hafter =>
        simp only [requestOf] at hrequest
        have hpost : runPostAll e response.record
            { s₁ with vars := keep u response.record vars, transport } u.postScripts =
            (after, { vars := keep u response.record vars, globals, transport, sandbox }) :=
          runPostAll_eq_iff.mpr ⟨globals, sandbox, hafter, rfl⟩
        simp [carryOut, hran.runPreAll_eq hall, hrequest, hsend, urlOf, conclude, hpost]

theorem runUnit_eq_iff {s s' : Session σ τ} {number : Nat} {u : RequestUnit} {method : Method}
    {r : Result} (h : u.method = some method) :
    runUnit e s number u = (r, s') ↔ Course e s number u method r s' := by
  simp only [runUnit, h]
  exact carryOut_eq_iff

/-! ### Runs -/

/-- The results of a run are those of its units, each in the session that the units before it left.
-/
theorem mem_runFrom_iff {s : Session σ τ} {number : Nat} {units : List RequestUnit} {r : Result} :
    r ∈ (runFrom e s number units).1 ↔
      ∃ before u after, units = before ++ u :: after ∧
        r = (runUnit e (runFrom e s number before).2 (number + before.length) u).1 := by
  induction units generalizing s number with
  | nil => simp [runFrom]
  | cons first rest ih =>
      simp only [runFrom, List.mem_cons, ih]
      constructor
      · rintro (rfl | ⟨before, u, after, rfl, rfl⟩)
        · exact ⟨[], first, rest, rfl, rfl⟩
        · -- the first unit is one more of those before, for the number and for the session
          refine ⟨first :: before, u, after, rfl, ?_⟩
          rw [List.length_cons, Nat.add_comm before.length 1, ← Nat.add_assoc]
          rfl
      · rintro ⟨before, u, after, hunits, rfl⟩
        cases before with
        | nil =>
            obtain ⟨rfl, rfl⟩ : first = u ∧ rest = after := by simpa using hunits
            exact .inl rfl
        | cons first' before =>
            obtain ⟨rfl, rfl⟩ : first = first' ∧ rest = before ++ u :: after := by
              simpa using hunits
            refine .inr ⟨before, u, after, rfl, ?_⟩
            rw [List.length_cons, Nat.add_comm before.length 1, ← Nat.add_assoc]
            rfl

/-- A run has one result for each unit. -/
theorem length_runFrom (s : Session σ τ) (number : Nat) (units : List RequestUnit) :
    (runFrom e s number units).1.length = units.length := by
  induction units generalizing s number with
  | nil => rfl
  | cons u rest ih => simp [runFrom, ih]

end HttpSuite.Exchange
