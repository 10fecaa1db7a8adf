/-
HttpSuite/Proofs/Script/FrozenResponse.lean

What becomes of the response while a script runs.

When a script starts, whatever can be reached from the response is frozen, but for the two functions of
the headers: functions are not visited when the response is frozen.  No turn of a script changes what
is fixed, so in each later scene the frozen objects are what they were, they refuse each change, and
what was read along a path of properties is still read there, and nothing else.  The two functions do
what they did, and no other function can be put in their place; but they take properties as other
objects do, so that what is read behind them can change (`reads?_valueOf_changed`).

Main result: this holds in every scene of every script after a response, and the scripts leave the
responses that have been recorded as they are (`response_unchanged`).
-/
import HttpSuite.Proofs.Script.Unhandled
import HttpSuite.Proofs.Exchange.Course

namespace HttpSuite.Script

open Library (withClient withResponse ground responseRef OfResponse lookupRefs)

/-! ### Runs -/

namespace Scene

theorem fixed_next (s : Scene) : s.machine.heap.KeepsFixed s.next.machine.heap := by
  have htakes := s.process.takes_turn
  cases hturn : s.process.turn with
  | ask q =>
      rw [next_of_ask hturn]
      exact .refl _
  | finished thrown =>
      rw [next_of_finished hturn]
      exact .refl _
  | ended name e p =>
      rw [hturn] at htakes
      rw [next_of_ended hturn]
      exact htakes.silent.heap.fixed
  | go p =>
      rw [hturn] at htakes
      rw [next_of_go hturn]
      exact htakes.tells.fixed

/-- A run keeps what is fixed. -/
theorem fixed_last (s : Scene) (turns : Nat) :
    s.machine.heap.KeepsFixed (s.last turns).machine.heap := by
  induction turns generalizing s with
  | zero => exact .refl _
  | succ turns ih =>
      rw [last_succ]
      exact s.fixed_next.trans (ih s.next)

end Scene

/-- A script keeps what is fixed when it starts. -/
theorem Surface.fixed_last (surface : Surface) (body : List Stmt) (globals : Table String)
    (turns : Nat) :
    surface.heap.KeepsFixed ((surface.first body globals).last turns).machine.heap :=
  (Engine.keeps_start surface.heap body).fixed.trans
    (Scene.fixed_last (surface.first body globals) turns)

/-! ### Refusal -/

/-- An object of which a script can change nothing: it is frozen, an assignment to a property of it
throws, and so does a deletion, unless there is no such property. Only an assignment to `__proto__` may
be passed over, where the value is no parent or the one that the object has. -/
structure Engine.Refuses (m : Engine) (q : Ref) : Prop where
  frozen : (m.heap.object q).isFrozen = true
  assignment : ∀ key v, key = "__proto__" ∧ m.writeProperty (.object q) key v = m.give v ∨
    ∃ message, m.writeProperty (.object q) key v = m.raise .type message
  deletion : ∀ key scope,
    m.usePlace (.property (.object q) key) .delete scope =
      if ((m.heap.object q).own? key).isNone then m.give (.bool true)
      else m.raise .type "could not delete property"

theorem Engine.refuses_of_isFrozen {m : Engine} {q : Ref}
    (hq : (m.heap.object q).isFrozen = true) : m.Refuses q := by
  refine ⟨hq, fun key v => ?_, fun key scope => ?_⟩
  · rcases Heap.write_of_isFrozen hq key v with ⟨hkey, hsame⟩ | ⟨message, herror⟩
    · refine .inl ⟨hkey, ?_⟩
      rw [writeProperty, hsame]
      rfl
    · refine .inr ⟨message, ?_⟩
      rw [writeProperty, herror]
      rfl
  · rw [usePlace, Heap.delete_of_isFrozen hq]
    split
    · rfl
    · rfl

/-! ### What can be reached -/

namespace Library

variable {h : Heap} {r : ResponseRecord} {q : Ref}

/-- The cells are as they were made, but for the global object. -/
theorem object_withResponse_cell (h : Heap) (r : ResponseRecord) {i : Nat} (hi : i ≠ 0) :
    (withResponse h r).object (.cell i) = (withLookups h r).object (.cell i) := by
  have hne : global ≠ .cell i := fun heq => hi (Ref.cell.inj heq).symm
  obtain ⟨last, hplace, -⟩ := responseRef_eq h r
  rw [withResponse_eq, addGlobal, Heap.object_modify_of_ne hne, hplace]
  simp only [Heap.object, Heap.cells_deepFreeze (isLayered_draftResponse h r),
    cells_draftResponse]

/-- The functions are in cells, and not in that of the global object. -/
theorem exists_cell_of_mem (hsize : 0 < h.cells.size) (hq : q ∈ lookupRefs h) :
    ∃ i, i ≠ 0 ∧ q = .cell i := by
  simp only [lookupRefs, valueOfCell, List.mem_cons, List.not_mem_nil, or_false] at hq
  rcases hq with rfl | rfl
  · exact ⟨_, by omega, rfl⟩
  · exact ⟨_, by omega, rfl⟩

/-- The two functions are functions of the library, nobody has frozen them, and they hold no other
object. -/
theorem lookup_of_mem (hsize : 0 < h.cells.size) (hq : q ∈ lookupRefs h) :
    ((withResponse h r).object q).isCallable = true ∧
      ((withResponse h r).object q).extensible = true ∧
      ∀ key p, (((withResponse h r).object q).own? key).map (·.value) ≠ some (.object p) := by
  obtain ⟨f, hmade⟩ := exists_hostFunction_of_mem r hq
  obtain ⟨i, hi, rfl⟩ := exists_cell_of_mem hsize hq
  rw [object_withResponse_cell h r hi, hmade]
  refine ⟨rfl, rfl, fun key p hown => ?_⟩
  simp only [hostFunction, Object.own?, Table.find?] at hown
  split at hown
  · cases hown
  · cases hown

/-- So they are not frozen. -/
theorem not_isFrozen_of_mem (hsize : 0 < h.cells.size) (hq : q ∈ lookupRefs h) :
    ((withResponse h r).object q).isFrozen ≠ true := by
  intro hfrozen
  have hextensible := (lookup_of_mem (r := r) hsize hq).2.1
  cases hextensible.symm.trans (Object.extensible_of_isFrozen hfrozen)

/-- What an object of the response holds belongs to the response, or is one of the two functions. -/
theorem ofResponse_of_own? (hq : OfResponse h r q) {key : String} {p : Ref}
    (hown : (((withResponse h r).object q).own? key).map (·.value) = some (.object p)) :
    OfResponse h r p ∨ p ∈ lookupRefs h := by
  obtain ⟨i, rfl, -⟩ := isFrozen_of_ofResponse hq
  have hdraft := hown
  rw [value_own?_withResponse] at hdraft
  rcases Heap.cases_of_given (layered_draftResponse h r) hdraft with
    ⟨j, -, rfl, hcallable⟩ | ⟨j, rfl, hj⟩
  · have hpart : (withResponse h r).part? (.given i) key = some (.given j) := by
      rw [part?_withResponse]
      exact Heap.part?_eq_some_iff.mpr ⟨hdraft, hcallable⟩
    exact .inl (hq.trans (.part hpart (.self _)))
  · exact .inr hj

/-- **What can be reached from the response** belongs to it, or is one of the two functions. -/
theorem reachable_iff (hsize : 0 < h.cells.size) :
    (withResponse h r).Reachable (responseRef h r) q ↔ OfResponse h r q ∨ q ∈ lookupRefs h := by
  constructor
  · have hreach : ∀ {p q : Ref}, (withResponse h r).Reachable p q →
        OfResponse h r p ∨ p ∈ lookupRefs h → OfResponse h r q ∨ q ∈ lookupRefs h := by
      intro p q hpq
      induction hpq with
      | self => exact id
      | property hown _ ih =>
          rintro (hp | hp)
          · exact ih (ofResponse_of_own? hp hown)
          · exact absurd hown ((lookup_of_mem hsize hp).2.2 _ _)
    exact fun hq => hreach hq (.inl (.self _))
  · rintro (hq | hq)
    · exact hq.reachable
    · -- the functions are fields of the headers, whatever the names of the headers are
      have hheaders := (Heap.part?_eq_some_iff.mp (part?_headers h r)).1
      have hfield : ∃ name, Table.find? name (headerFields h r).reverse = some (.object q) := by
        simp only [lookupRefs, List.mem_cons, List.not_mem_nil, or_false] at hq
        rcases hq with rfl | rfl
        · exact ⟨"valueOf", by rw [find?_headerFields]; rfl⟩
        · exact ⟨"valuesOf", by rw [find?_headerFields]; rfl⟩
      obtain ⟨name, hname⟩ := hfield
      exact .property hheaders (.property ((value_own?_headersRef h r name).trans hname) (.self q))

/-- The two functions are all functions that can be reached. -/
theorem mem_lookupRefs_iff (hsize : 0 < h.cells.size) :
    q ∈ lookupRefs h ↔ (withResponse h r).Reachable (responseRef h r) q ∧
      ((withResponse h r).object q).isCallable = true := by
  rw [reachable_iff hsize]
  constructor
  · exact fun hq => ⟨.inr hq, (lookup_of_mem hsize hq).1⟩
  · rintro ⟨hq | hq, hcallable⟩
    · obtain ⟨i, rfl, -⟩ := isFrozen_of_ofResponse hq
      rw [object_withResponse, (Heap.froze_deepFreeze _ _ _).isCallable] at hcallable
      have hno := (layered_draftResponse h r).isCallable i
      cases hcallable.symm.trans hno
    · exact hq

end Library

/-! ### Reading along a path -/

namespace Heap

/-- The value of a property that belongs to a value itself. -/
def ownValue? (h : Heap) (v : Value) (key : String) : Option Value :=
  match v with
  | .object r => ((h.object r).own? key).map (·.value)
  | _ => none

/-- What is read along a path of properties, each of which belongs to the value itself. -/
def reads? (h : Heap) (v : Value) : List String → Option Value
  | [] => some v
  | key :: path => (h.ownValue? v key).bind (h.reads? · path)

/-- Whether a path goes on behind a function. -/
def passesFunction (h : Heap) (v : Value) : List String → Bool
  | [] => false
  | key :: path => h.isCallable v || ((h.ownValue? v key).map (h.passesFunction · path)).getD false

end Heap

/-- The expression `e.key₁.key₂` and so on. -/
def Expr.follow (e : Expr) : List String → Expr
  | [] => e
  | key :: path => follow (.property e (.string key) false) path

section

variable {h : Heap} {r : ResponseRecord} {q : Ref} {v w : Value}

/-- A value that is no object, or one that can be reached from the response. -/
def Value.IsHeld (h : Heap) (r : ResponseRecord) (v : Value) : Prop :=
  ∀ q, v = .object q → OfResponse h r q ∨ q ∈ lookupRefs h

/-- What is a part of a value that is no function is held, too, and is there as long as what is fixed
is kept. -/
theorem Value.IsHeld.ownValue? (hsize : 0 < h.cells.size) (hv : v.IsHeld h r)
    (hcallable : (withResponse h r).isCallable v = false) {heap : Heap}
    (hfixed : (withResponse h r).KeepsFixed heap) (key : String) :
    heap.ownValue? v key = (withResponse h r).ownValue? v key ∧
      ∀ w, (withResponse h r).ownValue? v key = some w →
        w.IsHeld h r ∧ ∃ q, v = .object q ∧ heap.get v key = w := by
  cases v with
  | object q =>
      rcases hv q rfl with hq | hq
      · refine ⟨?_, fun w hw => ⟨?_, q, rfl, Library.get_of_ofResponse hfixed hq hw⟩⟩
        · rw [Heap.ownValue?, Heap.ownValue?, Library.object_of_ofResponse hfixed hq]
        · rintro p rfl
          exact Library.ofResponse_of_own? hq hw
      · have hfunction := (Library.lookup_of_mem (r := r) hsize hq).1
        cases hfunction.symm.trans hcallable
  | _ => exact ⟨rfl, nofun⟩

/-- **Reading in a heap**: along a path that does not go on behind a function is read what was read
there at the start, and nothing where there was nothing. -/
theorem reads?_of_isHeld (hsize : 0 < h.cells.size) {heap : Heap}
    (hfixed : (withResponse h r).KeepsFixed heap) (hv : v.IsHeld h r) {path : List String}
    (hpath : (withResponse h r).passesFunction v path = false) :
    heap.reads? v path = (withResponse h r).reads? v path := by
  induction path generalizing v with
  | nil => rfl
  | cons key path ih =>
      rw [Heap.passesFunction, Bool.or_eq_false_iff] at hpath
      obtain ⟨hcallable, hrest⟩ := hpath
      obtain ⟨hsame, hnext⟩ := hv.ownValue? hsize hcallable hfixed key
      rw [Heap.reads?, Heap.reads?, hsame]
      cases hown : (withResponse h r).ownValue? v key with
      | none => rfl
      | some w =>
          rw [hown] at hrest
          exact ih (hnext w hown).1 hrest

/-- **Reading in a script**: so does an expression that follows the path, from whatever comes to a
value that is held. -/
theorem Engine.evaluates_follow (hsize : 0 < h.cells.size) {scope : Nat} {e : Expr}
    (hv : v.IsHeld h r) (he : ∀ m : Engine, m.HasResponse h r scope → m.Evaluates e scope v)
    {path : List String} (hpath : (withResponse h r).passesFunction v path = false)
    (hw : (withResponse h r).reads? v path = some w) {m : Engine} (hm : m.HasResponse h r scope) :
    m.Evaluates (e.follow path) scope w := by
  -- the induction is on the path, for each expression that comes to where the path starts
  induction path generalizing v e with
  | nil =>
      obtain rfl : v = w := Option.some.inj hw
      exact he m hm
  | cons key path ih =>
      rw [Heap.passesFunction, Bool.or_eq_false_iff] at hpath
      obtain ⟨hcallable, hrest⟩ := hpath
      obtain ⟨u, hown, hread⟩ := Option.bind_eq_some_iff.mp hw
      rw [hown] at hrest
      have hproperty : ∀ m : Engine, m.HasResponse h r scope →
          m.Evaluates (.property e (.string key) false) scope u := by
        intro m hm
        obtain ⟨-, q, rfl, hget⟩ := (hv.ownValue? hsize hcallable hm.fixed key).2 u hown
        rw [← hget]
        exact Evaluates.property key fun f => he _ (hm.push f)
      exact ih ((hv.ownValue? hsize hcallable hm.fixed key).2 u hown).1 hproperty hrest hread

end

/-! Paths go down into arrays and objects of the body alike. -/

example :
    let r := ResponseRecord.ofRaw 200 "OK" []
      "\x7b\"items\": [\x7b\"id\": 1\x7d, \x7b\"id\": 2\x7d]\x7d"
    (withResponse (withClient ground) r).reads? (.object (responseRef (withClient ground) r))
      ["body", "items", "1", "id"] = some (.ofInt 2) := by
  decide +kernel

/-! ### Scripts after a response -/

/-- There are objects in the library. -/
theorem Library.size_withClient : 0 < (withClient ground).cells.size := by decide +kernel

/-- **What becomes of the response.**  Whatever can be reached from it is frozen when a script starts,
but for the two functions of the headers, which can be reached and are not.  While the script runs, all
that is no function stays what it was and refuses each change; along a path that does not go on behind
one of the functions is read what was read at the start, as long as the name `response` has not been
given to something else; and the functions do what they did.  The scripts after a response leave all
that has been recorded as it was. -/
theorem response_unchanged (r : ResponseRecord) (body : List Stmt) (globals : Table String)
    (turns : Nat) :
    let start := (Surface.postResponse r).heap
    let response := responseRef (withClient ground) r
    let m := (((Surface.postResponse r).first body globals).last turns).machine
    (∀ q, start.Reachable response q →
      ((start.object q).isFrozen = true ↔ q ∉ lookupRefs (withClient ground))) ∧
      (∀ q, q ∈ lookupRefs (withClient ground) ↔
        start.Reachable response q ∧ (start.object q).isCallable = true) ∧
      (∀ q, start.Reachable response q → q ∉ lookupRefs (withClient ground) →
        m.heap.object q = start.object q ∧ m.Refuses q) ∧
      (∀ path, start.passesFunction (.object response) path = false →
        m.heap.reads? (.object response) path = start.reads? (.object response) path ∧
          ∀ v, start.reads? (.object response) path = some v →
            ∀ scope, m.nameValue "response" scope = .ok (.object response) →
              m.Evaluates ((Expr.name "response").follow path) scope v) ∧
      (∀ i b, (start.object (.cell i)).kind = .builtin b →
        (m.heap.object (.cell i)).kind = .builtin b) ∧
      ∀ (σ τ : Type) (e : Exchange.Setting σ τ) (s : Exchange.Session σ τ)
        (references : List ScriptReference),
          ∃ globals sandbox,
            (Exchange.runPostAll e r s references).2 = { s with globals, sandbox } := by
  intro start response m
  have hsize := Library.size_withClient
  have hfixed : start.KeepsFixed m.heap := Surface.fixed_last (.postResponse r) body globals turns
  have hheld : (Value.object response).IsHeld (withClient ground) r := by
    rintro q heq
    cases heq
    exact .inl (.self _)
  refine ⟨fun q hq => ?_, fun q => Library.mem_lookupRefs_iff hsize, fun q hq hlookup => ?_,
    fun path hpath => ⟨reads?_of_isHeld hsize hfixed hheld hpath, fun v hv scope hname => ?_⟩,
    fun i b hb => ?_, fun σ τ e s references => ?_⟩
  · rcases (Library.reachable_iff hsize).mp hq with hof | hlookup
    · obtain ⟨-, -, hfrozen⟩ := Library.isFrozen_of_ofResponse hof
      exact ⟨fun _ hlookup => Library.not_isFrozen_of_mem hsize hlookup hfrozen, fun _ => hfrozen⟩
    · exact ⟨fun hfrozen => absurd hfrozen (Library.not_isFrozen_of_mem hsize hlookup),
        fun hnot => absurd hlookup hnot⟩
  · have hof : OfResponse (withClient ground) r q :=
      ((Library.reachable_iff hsize).mp hq).resolve_right hlookup
    have hsame : m.heap.object q = start.object q := Library.object_of_ofResponse hfixed hof
    obtain ⟨-, -, hfrozen⟩ := Library.isFrozen_of_ofResponse hof
    exact ⟨hsame, Engine.refuses_of_isFrozen (hsame ▸ hfrozen)⟩
  · exact Engine.evaluates_follow hsize hheld (fun _ hm => Engine.evaluates_response hm) hpath hv
      ⟨hfixed, hname⟩
  · exact Kind.eq_of_builtin? (hfixed.builtin i b (congrArg Kind.builtin? hb))
  · obtain ⟨globals, sandbox, -, hafter⟩ := Exchange.runPostAll_eq_iff.mp rfl
    exact ⟨globals, sandbox, hafter⟩

/-- A property that a script gives to one of the two functions is read there afterwards: this function
can be reached from the response and is not frozen. -/
theorem reads?_valueOf_changed :
    let r := ResponseRecord.ofRaw 200 "OK" [] ""
    let source := "response.headers.valueOf.x = 1; client.log(response.headers.valueOf.x);"
    let start := (Surface.postResponse r).heap
    let response := responseRef (withClient ground) r
    (∃ q, start.Reachable response q ∧ (start.object q).isFrozen = false) ∧
      start.reads? (.object response) ["headers", "valueOf", "x"] = none ∧
      (run {} source ∅ (.postResponse r)).1.success = true ∧
      (run {} source ∅ (.postResponse r)).1.logs = ["1"] ∧
      ∃ body, parse source = .ok body ∧
        (lastScene {} body ∅ (.postResponse r)).machine.heap.reads? (.object response)
          ["headers", "valueOf", "x"] = some (.ofInt 1) := by
  intro r source start response
  obtain ⟨hread, hsuccess, hlogs, hlast⟩ :
      start.reads? (.object response) ["headers", "valueOf", "x"] = none ∧
      (run {} source ∅ (.postResponse r)).1.success = true ∧
      (run {} source ∅ (.postResponse r)).1.logs = ["1"] ∧
      (parse source).toOption.map (fun body =>
        (lastScene {} body ∅ (.postResponse r)).machine.heap.reads? (.object response)
          ["headers", "valueOf", "x"]) = some (some (.ofInt 1)) := by
    decide +kernel
  refine ⟨?_, hread, hsuccess, hlogs, ?_⟩
  · obtain ⟨q, hq⟩ : ∃ q, q ∈ lookupRefs (withClient ground) := ⟨_, List.mem_cons_self⟩
    have hsize := Library.size_withClient
    exact ⟨q, ((Library.mem_lookupRefs_iff hsize).mp hq).1,
      eq_false_of_ne_true (Library.not_isFrozen_of_mem hsize hq)⟩
  · cases hbody : parse source with
    | error message =>
        rw [hbody] at hlast
        cases hlast
    | ok body =>
        rw [hbody] at hlast
        exact ⟨body, rfl, Option.some.inj hlast⟩

end HttpSuite.Script
