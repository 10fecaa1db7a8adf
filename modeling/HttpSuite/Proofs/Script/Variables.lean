/-
HttpSuite/Proofs/Script/Variables.lean

The variables as a script sees them.  What a script asks turn by turn is written down (`asked`); a
script sets a variable by asking to write it, and gets one by asking to read it.  What is around the
script keeps two tables, one that is read and one of the writes, and both are told by the requests:

    writes.get? k   =   lastSet? k asked
    vars.get? k     =   lastSet? k asked, or else what the script started with

This holds of no request, each turn keeps it (`vars_next`, `writes_next`), and so it holds after any
count of turns (`vars_last`, `writes_last`).

Main result: at each turn of a script the variables are seen as they have been set, and a call of
`request.variables.get` gives what is seen (`sees_last`).
-/
import HttpSuite.Proofs.Script.FrozenResponse

namespace HttpSuite.Script

/-! ### What is set -/

/-- The text that a request sets a variable to. -/
def Request.set? (k : String) : Request → Option String
  | .writeVariable name value => if k = name then some value else none
  | _ => none

/-- The text that the last of some requests set a variable to. -/
def lastSet? (k : String) (requests : List Request) : Option String :=
  requests.reverse.findSome? (Request.set? k)

theorem lastSet?_singleton (k : String) (q : Request) : lastSet? k [q] = q.set? k := by
  rw [lastSet?, List.reverse_singleton, List.findSome?_singleton]

/-- What has been set later counts. -/
theorem lastSet?_append (k : String) (xs ys : List Request) :
    lastSet? k (xs ++ ys) = (lastSet? k ys).or (lastSet? k xs) := by
  rw [lastSet?, List.reverse_append, List.findSome?_append]
  rfl

namespace Invocation

variable (i : Invocation) (q : Request) (k : String)

theorem vars_answer : (i.answer q).2.vars.get? k = (q.set? k).or (i.vars.get? k) := by
  cases q with
  | writeVariable name value =>
      show (i.vars.insert name value).get? k = (if k = name then some value else none).or _
      rw [Table.get?_insert]
      split
      · rfl
      · rfl
  | _ => rfl

theorem writes_answer : (i.answer q).2.writes.get? k = (q.set? k).or (i.writes.get? k) := by
  cases q with
  | writeVariable name value =>
      show (i.writes.insert name value).get? k = (if k = name then some value else none).or _
      rw [Table.get?_insert]
      split
      · rfl
      · rfl
  | _ => rfl

end Invocation

/-! ### What is asked -/

namespace Scene

/-- What is asked in the next turn. -/
def asks (s : Scene) : List Request :=
  match s.process.turn with
  | .ask q => [q]
  | _ => []

/-- What is asked in a count of turns, in order. -/
def asked : (turns : Nat) → Scene → List Request
  | 0, _ => []
  | turns + 1, s => s.asks ++ s.next.asked turns

variable (s : Scene) (k : String)

theorem asks_of_ask {s : Scene} {q : Request} (h : s.process.turn = .ask q) : s.asks = [q] := by
  rw [asks, h]

/-- What is around a script changes a table by what is asked in a turn, if every answer changes it by
the request and the end of a test does not. -/
theorem get?_next {table : Invocation → Table String}
    (answered : ∀ i q, (table (Invocation.answer i q).2).get? k =
      (q.set? k).or ((table i).get? k))
    (recorded : ∀ i name e, table (Invocation.record i name e) = table i) :
    (table s.next.around).get? k = (lastSet? k s.asks).or ((table s.around).get? k) := by
  cases hturn : s.process.turn with
  | go p =>
      rw [next_of_go hturn, asks, hturn]
      rfl
  | ask q =>
      rw [next_of_ask hturn, asks_of_ask hturn, lastSet?_singleton]
      exact answered s.around q
  | ended name e p =>
      rw [next_of_ended hturn, asks, hturn, recorded]
      rfl
  | finished thrown =>
      rw [next_of_finished hturn, asks, hturn]
      rfl

/-- What each turn does to a table, all turns do. -/
theorem get?_last {table : Invocation → Table String}
    (answered : ∀ i q, (table (Invocation.answer i q).2).get? k =
      (q.set? k).or ((table i).get? k))
    (recorded : ∀ i name e, table (Invocation.record i name e) = table i) (turns : Nat) :
    (table (s.last turns).around).get? k =
      (lastSet? k (s.asked turns)).or ((table s.around).get? k) := by
  induction turns generalizing s with
  | zero => rfl
  | succ turns ih =>
      rw [last_succ, ih, get?_next s k answered recorded, asked, lastSet?_append, Option.or_assoc]

theorem vars_last (turns : Nat) : (s.last turns).around.vars.get? k =
    (lastSet? k (s.asked turns)).or (s.around.vars.get? k) :=
  get?_last s k (fun i q => i.vars_answer q k) (fun _ _ _ => rfl) turns

theorem writes_last (turns : Nat) : (s.last turns).around.writes.get? k =
    (lastSet? k (s.asked turns)).or (s.around.writes.get? k) :=
  get?_last s k (fun i q => i.writes_answer q k) (fun _ _ _ => rfl) turns

end Scene

/-! ### Calls of the functions on variables -/

namespace Engine

variable {m : Engine} {k : String}

/-- A call of a function that speaks for what is around the script. -/
def Calls (m : Engine) (f : HostFunction) (args : List Value) : Prop :=
  ∃ g this, m.control = .call g this args ∧ m.heap.isBuiltin g (.host f) = true

theorem Calls.step_eq {f : HostFunction} {args : List Value} (h : m.Calls f args) :
    m.step = m.callHost f args := by
  obtain ⟨g, this, hcontrol, hbuiltin⟩ := h
  obtain ⟨r, rfl, hkind⟩ := Heap.exists_of_isBuiltin hbuiltin
  simp only [step, hcontrol, startCall, hkind, callBuiltin]

/-- A text as the name of a variable is taken as it is. -/
theorem withTexts_string {f : HostFunction} {rest : List Value} (hplace : textPlace? f = some 0) :
    m.withTexts f (.string k :: rest) = m.actHost f (.string k :: rest) := by
  simp only [withTexts, hplace]
  rfl

theorem Calls.step_get {rest : List Value} (h : m.Calls .variableGet (.string k :: rest)) :
    m.step = m.ask (.readVariable k) := by
  rw [h.step_eq, callHost, needing, if_neg (by simp [leastArguments]), withTexts_string rfl]
  rfl

theorem Calls.step_set {v : Value} {rest : List Value} {text : String}
    (h : m.Calls .variableSet (.string k :: v :: rest)) (hshown : m.heap.shown v = .ok text) :
    m.step = m.ask (.writeVariable k text) := by
  rw [h.step_eq, callHost, needing, if_neg (by simp [leastArguments]), withTexts_string rfl]
  have hsecond : argument (.string k :: v :: rest) 1 = v := rfl
  simp only [actHost, hsecond, hshown]
  rfl

end Engine

theorem Heap.isBuiltin_of_builtin? {h : Heap} {r : Ref} {b : Builtin}
    (hb : (h.object r).kind.builtin? = some b) : h.isBuiltin (.object r) b = true := by
  have hkind := Kind.eq_of_builtin? hb
  simp [isBuiltin, hkind]

namespace Surface

/-- A function of the object `request.variables` that a script starts with. -/
def variableFunction (surface : Surface) (name : String) : Value :=
  let request := ((surface.heap.slot? Library.global "request").map (·.value)).getD .undefined
  surface.heap.get (surface.heap.get request "variables") name

theorem variableFunction_preRequest (vars : Table String) (name : String) :
    variableFunction (.preRequest vars) name = variableFunction (.preRequest ∅) name :=
  rfl

/-- Whatever a script does, these functions stay what they are. -/
theorem isBuiltin_variableFunction (vars globals : Table String) (body : List Stmt) (turns : Nat) :
    let h := (((Surface.preRequest vars).first body globals).last turns).machine.heap
    h.isBuiltin (variableFunction (.preRequest vars) "get") (.host .variableGet) = true ∧
      h.isBuiltin (variableFunction (.preRequest vars) "set") (.host .variableSet) = true := by
  intro h
  have hfixed : (Surface.preRequest ∅).heap.KeepsFixed h :=
    Surface.fixed_last (.preRequest vars) body globals turns
  rw [variableFunction_preRequest vars "get", variableFunction_preRequest vars "set"]
  obtain ⟨hget, hset⟩ : variableFunction (.preRequest ∅) "get" = .object (.cell 167) ∧
      variableFunction (.preRequest ∅) "set" = .object (.cell 168) := by
    decide +kernel
  obtain ⟨hgetKind, hsetKind⟩ :
      ((Surface.preRequest ∅).heap.object (.cell 167)).kind.builtin? = some (.host .variableGet) ∧
        ((Surface.preRequest ∅).heap.object (.cell 168)).kind.builtin? =
          some (.host .variableSet) := by
    decide +kernel
  rw [hget, hset]
  exact ⟨Heap.isBuiltin_of_builtin? (hfixed.builtin 167 _ hgetKind),
    Heap.isBuiltin_of_builtin? (hfixed.builtin 168 _ hsetKind)⟩

end Surface

namespace Scene

variable {s : Scene} {k : String} {q : Request}

/-- A script that asks in its next step goes on with the answer in the turn after that. -/
theorem last_two_of_step (hcontrol : ∃ f this args, s.machine.control = .call f this args)
    (hstep : s.machine.step = s.machine.ask q) :
    s.asked 2 = [q] ∧ (s.last 2).around = (s.around.answer q).2 ∧
      (s.last 2).machine.control = .done (.normal (.ofText? (s.around.answer q).1)) := by
  obtain ⟨f, this, args, hcontrol⟩ := hcontrol
  have hgo : s.process.turn = .go { s.process with engine := s.machine.ask q } := by
    rw [← hstep, Process.turn, show s.process.engine.control = _ from hcontrol]
    rfl
  have hask : s.next.process.turn = .ask q := by
    rw [next_of_go hgo]
    rfl
  refine ⟨?_, ?_, ?_⟩
  · rw [asked, asked, asks_of_ask hask, asks, hgo]
    rfl
  · rw [last_succ, last_succ, next_of_ask hask, next_of_go hgo]
    rfl
  · rw [last_succ, last_succ, next_of_ask hask, next_of_go hgo]
    rfl

/-- What a scene shows of the variables, when a script has started with a table of them and has made
some requests since: they are seen as they were set last, or as they were, and those that were set
are written down.  A call of `get` gives what is seen, and a call of `set` is a request to write. -/
structure Sees (s : Scene) (before : Table String) (requests : List Request) : Prop where
  seen : ∀ k, s.around.vars.get? k = (lastSet? k requests).or (before.get? k)
  written : ∀ k, s.around.writes.get? k = lastSet? k requests
  get : ∀ this k rest,
    s.machine.control = .call ((Surface.preRequest before).variableFunction "get") this
      (.string k :: rest) →
    (s.last 2).machine.control =
      .done (.normal (.ofText? ((lastSet? k requests).or (before.get? k))))
  set : ∀ this k v rest text,
    s.machine.control = .call ((Surface.preRequest before).variableFunction "set") this
      (.string k :: v :: rest) →
    s.machine.heap.shown v = .ok text → s.asked 2 = [.writeVariable k text]

/-- **At each turn of a script the variables are seen as they have been set.** -/
theorem sees_last (vars globals : Table String) (body : List Stmt) (turns : Nat) :
    let start := (Surface.preRequest vars).first body globals
    (start.last turns).Sees vars (start.asked turns) := by
  intro start
  obtain ⟨hget, hset⟩ := Surface.isBuiltin_variableFunction vars globals body turns
  have hseen : ∀ k, (start.last turns).around.vars.get? k =
      (lastSet? k (start.asked turns)).or (vars.get? k) := fun k => start.vars_last k turns
  refine ⟨hseen, fun k => ?_, fun this k rest hcall => ?_, fun this k v rest text hcall hshown => ?_⟩
  · rw [writes_last]
    exact Option.or_none
  · rw [← hseen]
    have hcalls : (start.last turns).machine.Calls .variableGet (.string k :: rest) :=
      ⟨_, this, hcall, hget⟩
    exact (last_two_of_step ⟨_, _, _, hcall⟩ hcalls.step_get).2.2
  · have hcalls : (start.last turns).machine.Calls .variableSet (.string k :: v :: rest) :=
      ⟨_, this, hcall, hset⟩
    exact (last_two_of_step ⟨_, _, _, hcall⟩ (hcalls.step_set hshown)).1

end Scene

end HttpSuite.Script
