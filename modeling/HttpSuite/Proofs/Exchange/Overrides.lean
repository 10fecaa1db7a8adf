/-
HttpSuite/Proofs/Exchange/Overrides.lean

The overrides dominate a run.  Directives, extractions and scripts give texts to names while a
document is compiled and carried out; here all that they do to the variables is told as a history,
for any setting, so for any network and any outcome of any script:

    (compile w st content).2      = st.replay w (Document.history w st content)
    (run e s units).2.vars        = s.vars.replay e.world (runHistory e s 1 units)

The states that are reached are the replays of the first changes of a history.

Main result: in each of them the overrides are those at the start, and each of them is what its name
stands for (`overrides_dominate`).
-/
import HttpSuite.Proofs.Exchange.Course
import HttpSuite.Proofs.Variables.History

namespace HttpSuite

open VariableState (Change asks assigns)

/-! ### Compiling -/

/-- The directives of a section, in order. -/
def Section.directives (s : Section) : List Directive :=
  match s.kind with
  | .request => s.roles.filterMap (·.directive?)
  | .globals => s.globalDirectives

namespace Compilation

variable (w : World)

/-- A section changes the variables by its directives alone. -/
theorem oneSection_snd_vars (c : Compilation) (s : Section) :
    (oneSection w c s).2.vars = (c.vars.carryOutAll w s.directives).2 := by
  rw [oneSection, Section.directives]
  cases s.kind with
  | globals => exact (globalsAccount w s c).vars
  | request =>
      -- a unit without a request line is dropped, what its directives assigned is not
      have hvars := (requestAccount w s c).vars
      dsimp only
      split
      · exact hvars
      · exact hvars

theorem sections_snd_vars (c : Compilation) (ss : List Section) :
    (sections w c ss).2.vars = (c.vars.carryOutAll w (ss.flatMap Section.directives)).2 := by
  induction ss generalizing c with
  | nil => rfl
  | cons s ss ih =>
      rw [List.flatMap_cons, VariableState.carryOutAll_append, ← oneSection_snd_vars]
      exact ih (oneSection w c s).2

end Compilation

namespace Document

/-- The history of the variables while sections are compiled. -/
def sectionsHistory (w : World) (st : VariableState) (ss : List Section) : List Change :=
  st.directiveHistory w (ss.flatMap Section.directives)

theorem sections_eq_replay (w : World) (st : VariableState) (ss : List Section) :
    (Compilation.sections w ⟨st, []⟩ ss).2.vars = st.replay w (sectionsHistory w st ss) := by
  rw [sectionsHistory, ← VariableState.carryOutAll_snd_eq_replay]
  exact Compilation.sections_snd_vars w ⟨st, []⟩ ss

/-- The first sections are compiled with the first changes. -/
theorem sectionsHistory_take (w : World) (st : VariableState) (ss : List Section) (n : Nat) :
    sectionsHistory w st (ss.take n) <+: sectionsHistory w st ss := by
  have hss : ss.flatMap Section.directives =
      (ss.take n).flatMap Section.directives ++ (ss.drop n).flatMap Section.directives := by
    rw [← List.flatMap_append, List.take_append_drop]
  rw [sectionsHistory, sectionsHistory, hss, VariableState.directiveHistory_append]
  exact List.prefix_append _ _

/-- The history of the variables while a document is compiled. -/
def history (w : World) (st : VariableState) (content : String) : List Change :=
  sectionsHistory w st (Section.split content.toList)

end Document

namespace Exchange

variable {σ τ : Type} (e : Setting σ τ)

/-! ### Scripts -/

/-- The history of the scripts before a request: what each of them writes, up to the first that
fails. -/
def preHistory (s : Session σ τ) : List ScriptReference → List Change
  | [] => []
  | reference :: rest =>
    let (report, s) := runPre e s reference
    assigns report.result.writes.entries ++
      if report.result.success then preHistory s rest else []

theorem runPre_vars (s : Session σ τ) (reference : ScriptReference) :
    (runPre e s reference).2.vars =
      s.vars.replay e.world (assigns (runPre e s reference).1.result.writes.entries) := by
  rw [VariableState.replay_assigns]
  rfl

theorem runPreAll_vars (s : Session σ τ) (references : List ScriptReference) :
    (runPreAll e s references).2.2.vars =
      s.vars.replay e.world (preHistory e s references) := by
  induction references generalizing s with
  | nil => rfl
  | cons reference rest ih =>
      have hpre := runPre_vars e s reference
      rcases hrun : runPre e s reference with ⟨report, s₁⟩
      rw [hrun] at hpre
      simp only [preHistory, runPreAll, hrun, VariableState.replay_append, ← hpre]
      cases report.result.success with
      | true => exact ih s₁
      | false => rfl

/-- The scripts after a response change no variable. -/
theorem runPostAll_vars (record : ResponseRecord) (s : Session σ τ)
    (references : List ScriptReference) :
    (runPostAll e record s references).2.vars = s.vars := by
  induction references generalizing s with
  | nil => rfl
  | cons reference rest ih => exact ih (runPost e record s reference).2

/-! ### Requests -/

theorem fillHeaders_snd_eq_replay (w : World) (v : VariableState) (headers : Headers) :
    (fillHeaders w v headers).2 = v.replay w (headers.flatMap fun h => asks h.2) := by
  induction headers generalizing v with
  | nil => rfl
  | cons header rest ih =>
      rw [List.flatMap_cons, VariableState.replay_append,
        ← VariableState.substitute_snd_eq_replay]
      exact ih _

/-- The look-ups while a body is filled. -/
def bodyAsks : RequestBody → List Change
  | .inline text => asks text
  | _ => []

theorem fillBody_snd_eq_replay (directory : Option String) (w : World) (v : VariableState)
    (body : RequestBody) : (fillBody directory w v body).2 = v.replay w (bodyAsks body) := by
  cases body with
  | inline text => exact v.substitute_snd_eq_replay w text
  | none => rfl
  | file path => rfl

/-- The history while a request is made for a target whose placeholders are filled. -/
def buildHistory (u : RequestUnit) (method : Method) (target : String) : List Change :=
  match Request.ofTarget method target with
  | .error _ => []
  | .ok _ => (u.headers.flatMap fun h => asks h.2) ++ bodyAsks u.body

theorem build_snd_eq_replay (v : VariableState) (u : RequestUnit) (method : Method)
    (target : String) :
    (build e v u method target).2 = v.replay e.world (buildHistory u method target) := by
  rw [build, buildHistory]
  cases Request.ofTarget method target with
  | error cause => rfl
  | ok request =>
      dsimp only
      rw [VariableState.replay_append, ← fillHeaders_snd_eq_replay,
        ← fillBody_snd_eq_replay e.directory]

/-! ### Responses -/

/-- The history of extractions: what their paths select from a body. -/
def extractHistory (body : ResponseBody) : List (String × String) → List Change
  | [] => []
  | (key, path) :: rest =>
    match body.json?.bind (JsonPath.first · path) with
    | some v => .assign key v.render :: extractHistory body rest
    | none => extractHistory body rest

/-- The history while a response is kept: its record, and what the extractions select. -/
def keepHistory (u : RequestUnit) (record : ResponseRecord) : List Change :=
  (u.requestId.toList.map fun id => .record id record) ++
    extractHistory record.body u.extractions

theorem extract_eq_replay (w : World) (body : ResponseBody) (v : VariableState)
    (extractions : List (String × String)) :
    { v with store := extract body v.store extractions } =
      v.replay w (extractHistory body extractions) := by
  induction extractions generalizing v with
  | nil => rfl
  | cons extraction rest ih =>
      obtain ⟨key, path⟩ := extraction
      simp only [extract, extractHistory]
      cases body.json?.bind (JsonPath.first · path) with
      | none => exact ih v
      | some value => exact ih (v.set key value.render)

theorem keep_eq_replay (w : World) (u : RequestUnit) (record : ResponseRecord)
    (v : VariableState) : keep u record v = v.replay w (keepHistory u record) := by
  rw [keep, keepHistory, VariableState.replay_append, ← extract_eq_replay]
  cases u.requestId <;> rfl

/-! ### Units -/

/-- The history of a unit with a method. -/
def unitHistory (s : Session σ τ) (u : RequestUnit) (method : Method) : List Change :=
  let (_, failed, s₁) := runPreAll e s u.preScripts
  let (url, vars) := s₁.vars.substitute e.world u.target
  preHistory e s u.preScripts ++ asks u.target ++
    if failed then []
    else
      buildHistory u method url ++
        match (build e vars u method url).1 with
        | .error _ => []
        | .ok request =>
          match (e.send request s₁.transport).1 with
          | .error _ => []
          | .ok response => keepHistory u response.record

theorem carryOut_vars (s : Session σ τ) (number : Nat) (u : RequestUnit) (method : Method) :
    (carryOut e s number u method).2.vars =
      s.vars.replay e.world (unitHistory e s u method) := by
  have hpre := runPreAll_vars e s u.preScripts
  rcases hscripts : runPreAll e s u.preScripts with ⟨before, failed, s₁⟩
  rw [hscripts] at hpre
  have htarget := s₁.vars.substitute_snd_eq_replay e.world u.target
  rcases hurl : s₁.vars.substitute e.world u.target with ⟨url, vars⟩
  rw [hurl] at htarget
  simp only [carryOut, unitHistory, hscripts, hurl, VariableState.replay_append, ← hpre, ← htarget]
  cases failed with
  | true => rfl -- the target is filled for the report alone
  | false =>
      have hbuild := build_snd_eq_replay e vars u method url
      rcases hrequest : build e vars u method url with ⟨request, vars'⟩
      rw [hrequest] at hbuild
      simp only [Bool.false_eq_true, if_false, VariableState.replay_append, ← hbuild]
      cases request with
      | error cause => rfl
      | ok request =>
          rcases hsend : e.send request s₁.transport with ⟨response, transport⟩
          cases response with
          | error cause => simp only [hsend]; rfl
          | ok response =>
              -- the scripts after the response come last, and leave what is kept alone
              simp only [hsend, ← keep_eq_replay]
              exact runPostAll_vars e _ _ _

/-- The history of units that are carried out one after the other. -/
def runHistory (s : Session σ τ) (number : Nat) : List RequestUnit → List Change
  | [] => []
  | u :: rest =>
    u.method.toList.flatMap (unitHistory e s u) ++
      runHistory (runUnit e s number u).2 (number + 1) rest

theorem runUnit_vars (s : Session σ τ) (number : Nat) (u : RequestUnit) :
    (runUnit e s number u).2.vars =
      s.vars.replay e.world (u.method.toList.flatMap (unitHistory e s u)) := by
  rw [runUnit]
  cases u.method with
  | none => rfl
  | some method =>
      rw [Option.toList_some, List.flatMap_singleton]
      exact carryOut_vars e s number u method

theorem runFrom_vars (s : Session σ τ) (number : Nat) (units : List RequestUnit) :
    (runFrom e s number units).2.vars =
      s.vars.replay e.world (runHistory e s number units) := by
  induction units generalizing s number with
  | nil => rfl
  | cons u rest ih =>
      rw [runHistory, VariableState.replay_append, ← runUnit_vars e s number u]
      exact ih (runUnit e s number u).2 (number + 1)

theorem runHistory_append (s : Session σ τ) (number : Nat) (xs ys : List RequestUnit) :
    runHistory e s number (xs ++ ys) = runHistory e s number xs ++
      runHistory e (runFrom e s number xs).2 (number + xs.length) ys := by
  induction xs generalizing s number with
  | nil => rfl
  | cons u xs ih =>
      rw [List.cons_append, runHistory, runHistory, ih, List.append_assoc, List.length_cons,
        Nat.add_comm xs.length, ← Nat.add_assoc]
      rfl

/-- The first units are carried out with the first changes. -/
theorem runHistory_take (s : Session σ τ) (units : List RequestUnit) (n : Nat) :
    runHistory e s 1 (units.take n) <+: runHistory e s 1 units := by
  have happend := runHistory_append e s 1 (units.take n) (units.drop n)
  rw [List.take_append_drop] at happend
  exact ⟨_, happend.symm⟩

/-! ### Dominance -/

/-- **Overrides**: compiling a document and carrying out requests never change the overrides, and in
every state on the way an override is what its key stands for, whatever directives, extractions and
scripts give to the same key.  The states between two sections and between two requests are on the
way. -/
theorem overrides_dominate (e : Setting σ τ) :
    (∀ (st : VariableState) (content : String),
      st.OverridesDominate e.world (Document.history e.world st content)
        (Document.compile e.world st content).2 ∧
      ∀ n, ∃ m, (Compilation.sections e.world ⟨st, []⟩
        ((Section.split content.toList).take n)).2.vars =
          st.replay e.world ((Document.history e.world st content).take m)) ∧
    ∀ (s : Session σ τ) (units : List RequestUnit),
      s.vars.OverridesDominate e.world (runHistory e s 1 units) (run e s units).2.vars ∧
      ∀ n, ∃ m, (run e s (units.take n)).2.vars =
        s.vars.replay e.world ((runHistory e s 1 units).take m) := by
  constructor
  · intro st content
    refine ⟨VariableState.overridesDominate_of_replay e.world
      (Document.sections_eq_replay e.world st (Section.split content.toList)), fun n => ?_⟩
    have hfirst := Document.sectionsHistory_take e.world st (Section.split content.toList) n
    exact ⟨_, by rw [Document.sections_eq_replay, List.prefix_iff_eq_take.mp hfirst]; rfl⟩
  · intro s units
    refine ⟨VariableState.overridesDominate_of_replay e.world (runFrom_vars e s 1 units),
      fun n => ?_⟩
    have hfirst := runHistory_take e s units n
    exact ⟨_, by rw [run, runFrom_vars, List.prefix_iff_eq_take.mp hfirst]⟩

end Exchange

end HttpSuite
