/-
HttpSuite/Proofs/Script/ResponseObject.lean

The response that a script sees.  It is made of objects that the script is given, and what belongs to
it is frozen before the script starts (`Library.isFrozen_of_ofResponse`); so its properties are read as
they were made in every heap that keeps what is fixed.  The object `response.headers` is made of

    the members of the headers as a JSON object
    the functions `valueOf` and `valuesOf`, which look names up in the list of the headers

in this order, so that a header that has the name of one of the two functions is not to be seen.

An expression is told by what it comes to: wherever in a script it is evaluated, the machine goes on
with its value and with nothing else changed (`Evaluates`).  This holds in every machine in which the
name `response` has not been given to something else (`HasResponse`).

Main results: `response.headers["name"]` has the value of the last field of this name
(`evaluates_headerEntry`), and `response.headers.valueOf("name")` that of the first header of this
name (`evaluates_headerCall`).
-/
import HttpSuite.Proofs.Script.Layering
import HttpSuite.Script.Sandbox

namespace HttpSuite.Script

/-! ### The object -/

/-- Members that are texts become fields, and need no objects. -/
theorem Given.ofMembers_strings (given : Array Object) (l : List (String × String)) :
    Given.ofMembers given (Datum.ofMembers (l.map fun e => (e.1, .string e.2))) =
      (l.map fun e => (e.1, .string e.2), given) := by
  induction l with
  | nil => rfl
  | cons e rest ih =>
      rw [List.map_cons, Datum.ofMembers, Datum.ofJson, Given.ofMembers, Given.ofDatum]
      simp only [ih, List.map_cons]

namespace Library

variable {h : Heap} {r : ResponseRecord}

/-- The members of the headers as a JSON object, with their texts as values. -/
def headerMembers (r : ResponseRecord) : List (String × Value) :=
  (Table.ofList r.headers).entries.map fun e => (e.1, .string e.2)

theorem headersJson_eq (r : ResponseRecord) :
    r.headersJson = .object ((Table.ofList r.headers).entries.map fun e => (e.1, .string e.2)) := by
  rw [ResponseRecord.headersJson, Json.ofMembers, Table.entries_ofList_map]

/-- The function `valueOf` of the headers; it is the first object that a response adds. -/
def valueOfCell (h : Heap) : Ref := .cell h.cells.size

/-- The two functions of the headers. -/
def lookupRefs (h : Heap) : List Ref := [valueOfCell h, .cell (h.cells.size + 1)]

/-- The fields of the object with the headers. -/
def headerFields (h : Heap) (r : ResponseRecord) : List (String × Value) :=
  headerMembers r ++
    [("valueOf", .object (valueOfCell h)), ("valuesOf", .object (.cell (h.cells.size + 1)))]

/-- The library with the functions that look headers up. -/
def withLookups (h : Heap) (r : ResponseRecord) : Heap :=
  ((h.makeBuiltin "" (.host (.headerValue r.headers))).2.makeBuiltin ""
    (.host (.headerValues r.headers))).2

/-- A function of the host as it is made: of all properties it has a name. -/
def hostFunction (f : HostFunction) : Object :=
  { parent := some functions
    slots := [("name", ⟨.string "", false, false, true⟩)]
    kind := .builtin (.host f) }

/-- The first of the two functions looks one header up, and the second one all of a name. -/
theorem object_lookups (h : Heap) (r : ResponseRecord) :
    (withLookups h r).object (valueOfCell h) = hostFunction (.headerValue r.headers) ∧
      (withLookups h r).object (.cell (h.cells.size + 1)) =
        hostFunction (.headerValues r.headers) := by
  have hsize : (h.makeBuiltin "" (.host (.headerValue r.headers))).2.cells.size =
      h.cells.size + 1 := by
    simp [Heap.makeBuiltin, Heap.make, Heap.allocate]
  constructor
  · -- the second function is made behind the first one
    show (Heap.allocate _ _).2.object (.cell h.cells.size) = _
    rw [Heap.object_allocate, if_neg (by omega)]
    show (Heap.allocate _ _).2.object (.cell h.cells.size) = _
    rw [Heap.object_allocate, if_pos rfl]
    rfl
  · show (Heap.allocate _ _).2.object (.cell (h.cells.size + 1)) = _
    rw [Heap.object_allocate, if_pos hsize.symm]
    rfl

theorem exists_hostFunction_of_mem {h : Heap} (r : ResponseRecord) {q : Ref}
    (hq : q ∈ lookupRefs h) :
    ∃ f, (withLookups h r).object q = hostFunction f := by
  obtain ⟨hone, hall⟩ := object_lookups h r
  simp only [lookupRefs, List.mem_cons, List.not_mem_nil, or_false] at hq
  rcases hq with rfl | rfl
  · exact ⟨_, hone⟩
  · exact ⟨_, hall⟩

/-- A response is the last object of those that are given, and its headers are the one in front of it. -/
theorem draftResponse_spec (h : Heap) (r : ResponseRecord) :
    ∃ (before : Array Object) (body kind : Value),
      draftResponse h r =
        ({ withLookups h r with
            given := (before.push (Given.plain (headerFields h r))).push
              (Given.plain
                [("body", body), ("contentType", kind), ("headers", .object (.given before.size)),
                  ("status", .ofInt r.status), ("statusText", .string r.statusText)]) },
          .given (before.size + 1)) ∧
      ∀ cells, Given.Grows cells #[] [body, kind] before := by
  unfold draftResponse
  rw [headersJson_eq]
  simp only [Datum.ofJson, Given.ofMembers_strings]
  have hbody (cells : Nat → Prop) : Given.Grows cells #[]
      [(Given.ofDatum #[] (Datum.ofJson r.body.toJson)).1]
      (Given.ofDatum #[] (Datum.ofJson r.body.toJson)).2 :=
    Given.grows_ofDatum (fun i o hi => by cases hi) _
  generalize Given.ofDatum #[] (Datum.ofJson r.body.toJson) = body at hbody
  generalize hkind : Given.plain [("charset", _), ("mimeType", _)] = kind
  refine ⟨(Given.add body.2 kind).2, body.1, (Given.add body.2 kind).1, ?_, fun cells => ?_⟩
  · simp only [headerFields, headerMembers, valueOfCell, withLookups, Heap.makeBuiltin, Heap.make,
      Heap.allocate, Array.size_push, Given.add]
  · -- the content type holds nothing but texts
    have hnone : Given.Grows cells body.2 [] body.2 :=
      ⟨(hbody cells).layered, Nat.le_refl _, fun _ hv => absurd hv List.not_mem_nil⟩
    refine (hbody cells).cons (hnone.add ?_)
    rw [← hkind]
    refine Given.fits_plain fun e he => ?_
    rcases List.mem_cons.mp he with rfl | he
    · cases (r.contentType.getD ("", none)).2 with
      | none => trivial
      | some charset => trivial
    · obtain rfl := List.mem_singleton.mp he
      trivial

/-- What belongs to a response lies in layers, and of the cells only the two functions belong to it. -/
theorem layered_draftResponse (h : Heap) (r : ResponseRecord) :
    Given.IsLayered (fun i => .cell i ∈ lookupRefs h) (draftResponse h r).1.given := by
  obtain ⟨before, body, kind, hdraft, hgrows⟩ := draftResponse_spec h r
  rw [hdraft]
  have hbefore := hgrows fun i => .cell i ∈ lookupRefs h
  refine Given.isLayered_push (Given.isLayered_push hbefore.layered ?_) ?_
  · refine Given.fits_plain fun e he => ?_
    rcases List.mem_append.mp he with hmember | hfunction
    · obtain ⟨member, -, rfl⟩ := List.mem_map.mp hmember
      trivial
    · rcases List.mem_cons.mp hfunction with rfl | hfunction
      · exact List.mem_cons_self
      · obtain rfl := List.mem_singleton.mp hfunction
        exact List.mem_cons_of_mem _ List.mem_cons_self
  · refine Given.fits_plain fun e he => ?_
    have hsize : before.size ≤ (before.push (Given.plain (headerFields h r))).size := by simp
    simp only [List.mem_cons, List.not_mem_nil, or_false] at he
    rcases he with rfl | rfl | rfl | rfl | rfl
    · exact Given.isBelow_mono hsize (hbefore.below _ List.mem_cons_self)
    · exact Given.isBelow_mono hsize (hbefore.below _ (List.mem_cons_of_mem _ List.mem_cons_self))
    · show before.size < (before.push _).size
      simp
    · trivial
    · trivial

theorem cells_draftResponse (h : Heap) (r : ResponseRecord) :
    (draftResponse h r).1.cells = (withLookups h r).cells := by
  obtain ⟨before, body, kind, hdraft, -⟩ := draftResponse_spec h r
  rw [hdraft]

theorem isLayered_draftResponse (h : Heap) (r : ResponseRecord) :
    (draftResponse h r).1.IsLayered := by
  refine Heap.isLayered_of_given (layered_draftResponse h r) fun i hi => ?_
  have hcell : (draftResponse h r).1.object (.cell i) = (withLookups h r).object (.cell i) := by
    simp only [Heap.object, cells_draftResponse]
  obtain ⟨f, hmade⟩ := exists_hostFunction_of_mem r hi
  rw [hcell, hmade]
  rfl

/-- The place of the response in a script. -/
def responseRef (h : Heap) (r : ResponseRecord) : Ref := (draftResponse h r).2

/-- The response is given, as the last of all objects. -/
theorem responseRef_eq (h : Heap) (r : ResponseRecord) :
    ∃ i, responseRef h r = .given i ∧ (draftResponse h r).1.given.size = i + 1 := by
  obtain ⟨before, body, kind, hdraft, -⟩ := draftResponse_spec h r
  refine ⟨before.size + 1, ?_, ?_⟩
  · rw [responseRef, hdraft]
  · rw [hdraft, Array.size_push, Array.size_push]

/-- The response in a script. -/
def responseValue (h : Heap) (r : ResponseRecord) : Value := .object (responseRef h r)

/-- The object with the headers of the response in a script. -/
def headersRef (h : Heap) (r : ResponseRecord) : Ref :=
  .given ((draftResponse h r).1.given.size - 2)

theorem withResponse_eq (h : Heap) (r : ResponseRecord) :
    withResponse h r = addGlobal
      ((draftResponse h r).1.deepFreeze (draftResponse h r).1.given.size (responseRef h r))
      "response" (responseValue h r) :=
  rfl

/-- Only the global object is changed after the response has been frozen. -/
theorem object_withResponse (h : Heap) (r : ResponseRecord) (i : Nat) :
    (withResponse h r).object (.given i) =
      ((draftResponse h r).1.deepFreeze (draftResponse h r).1.given.size (responseRef h r)).object
        (.given i) := by
  have hne : global ≠ .given i := nofun
  rw [withResponse_eq, addGlobal, Heap.object_modify_of_ne hne]

/-- What is given has the same parts before and after it is frozen. -/
theorem part?_withResponse (h : Heap) (r : ResponseRecord) (i : Nat) (key : String) :
    (withResponse h r).part? (.given i) key = (draftResponse h r).1.part? (.given i) key := by
  have hne : global ≠ .given i := nofun
  rw [withResponse_eq, addGlobal,
    Heap.part?_modify_of_ne hne fun o => o.isCallable_put _ _]
  exact (Heap.froze_deepFreeze _ _ _).part? _ key

theorem isLayered_withResponse (h : Heap) (r : ResponseRecord) : (withResponse h r).IsLayered :=
  fun i key q hpart =>
    isLayered_draftResponse h r i key q ((part?_withResponse h r i key).symm.trans hpart)

/-- What belongs to a response: what lies within it when a script starts. -/
def OfResponse (h : Heap) (r : ResponseRecord) (q : Ref) : Prop :=
  (withResponse h r).Within (responseRef h r) q

/-- **The response is frozen**: whatever belongs to it has been given, and is frozen when the script
starts. -/
theorem isFrozen_of_ofResponse {q : Ref} (hq : OfResponse h r q) :
    ∃ i, q = .given i ∧ ((withResponse h r).object q).isFrozen = true := by
  have hlayered := isLayered_draftResponse h r
  obtain ⟨last, hplace, hsize⟩ := responseRef_eq h r
  unfold OfResponse at hq
  rw [hplace] at hq
  -- the traversal is told by what lies within the response before it
  have hwithin : (draftResponse h r).1.Within (.given last) q :=
    (isLayered_withResponse h r).within_of_part?
      (fun i key => (part?_withResponse h r i key).symm) hq
  obtain ⟨i, -, rfl⟩ := hlayered.exists_given hwithin
  refine ⟨i, rfl, ?_⟩
  rw [object_withResponse, hplace]
  exact Heap.isFrozen_deepFreeze hlayered (by omega) (by omega) hwithin

/-- As long as what is fixed is kept, what belongs to a response is as it was at the start. -/
theorem object_of_ofResponse {heap : Heap} (hfixed : (withResponse h r).KeepsFixed heap) {q : Ref}
    (hq : OfResponse h r q) : heap.object q = (withResponse h r).object q := by
  obtain ⟨i, rfl, hfrozen⟩ := isFrozen_of_ofResponse hq
  exact hfixed.given i hfrozen

theorem get_of_ofResponse {heap : Heap} (hfixed : (withResponse h r).KeepsFixed heap) {q : Ref}
    (hq : OfResponse h r q) {key : String} {v : Value}
    (hv : (((withResponse h r).object q).own? key).map (·.value) = some v) :
    heap.get (.object q) key = v := by
  refine Heap.get_of_own?_value ?_
  rw [object_of_ofResponse hfixed hq, hv]

/-- What is given has the same values before and after it is frozen. -/
theorem value_own?_withResponse (h : Heap) (r : ResponseRecord) (i : Nat) (key : String) :
    (((withResponse h r).object (.given i)).own? key).map (·.value) =
      (((draftResponse h r).1.object (.given i)).own? key).map (·.value) := by
  rw [object_withResponse]
  exact (Heap.froze_deepFreeze _ _ _).value_own? _ key

/-- The two objects that a response ends with. -/
theorem objects_draftResponse (h : Heap) (r : ResponseRecord) :
    (∃ body kind, (draftResponse h r).1.object (responseRef h r) = Given.plain
        [("body", body), ("contentType", kind), ("headers", .object (headersRef h r)),
          ("status", .ofInt r.status), ("statusText", .string r.statusText)]) ∧
      (draftResponse h r).1.object (headersRef h r) = Given.plain (headerFields h r) := by
  obtain ⟨before, body, kind, hdraft, -⟩ := draftResponse_spec h r
  have hheaders : headersRef h r = .given before.size := by
    rw [headersRef, hdraft, Array.size_push, Array.size_push]
    rfl
  have hpenultimate : ∀ o o' : Object, ((before.push o).push o')[before.size]? = some o := by
    intro o o'
    rw [Array.getElem?_push, Array.size_push, if_neg (Nat.ne_of_lt (Nat.lt_succ_self _)),
      Array.getElem?_push_size]
  have hlast : ∀ o o' : Object, ((before.push o).push o')[before.size + 1]? = some o' := by
    intro o o'
    rw [Array.getElem?_push, Array.size_push, if_pos rfl]
  rw [hheaders, responseRef, hdraft]
  refine ⟨⟨body, kind, ?_⟩, ?_⟩
  · exact congrArg (·.getD {}) (hlast _ _)
  · exact congrArg (·.getD {}) (hpenultimate _ _)

/-- The response has its fields. -/
theorem value_own?_responseRef (h : Heap) (r : ResponseRecord) :
    ∃ body kind, ∀ key, (((withResponse h r).object (responseRef h r)).own? key).map (·.value) =
      Table.find? key
        [("body", body), ("contentType", kind), ("headers", .object (headersRef h r)),
          ("status", .ofInt r.status), ("statusText", .string r.statusText)].reverse := by
  obtain ⟨⟨body, kind, hobject⟩, -⟩ := objects_draftResponse h r
  obtain ⟨i, hplace, -⟩ := responseRef_eq h r
  refine ⟨body, kind, fun key => ?_⟩
  rw [hplace] at hobject ⊢
  rw [value_own?_withResponse, hobject, Given.own?_plain]

/-- The object with the headers has its fields. -/
theorem value_own?_headersRef (h : Heap) (r : ResponseRecord) (key : String) :
    (((withResponse h r).object (headersRef h r)).own? key).map (·.value) =
      Table.find? key (headerFields h r).reverse := by
  rw [← Given.own?_plain, ← (objects_draftResponse h r).2]
  exact value_own?_withResponse h r _ key

/-- The headers are a part of the response. -/
theorem part?_headers (h : Heap) (r : ResponseRecord) :
    (withResponse h r).part? (responseRef h r) "headers" = some (headersRef h r) := by
  obtain ⟨body, kind, hfields⟩ := value_own?_responseRef h r
  rw [Heap.part?_eq_some_iff]
  refine ⟨hfields "headers", ?_⟩
  have hobject := (objects_draftResponse h r).2
  unfold headersRef at hobject ⊢
  rw [object_withResponse, (Heap.froze_deepFreeze _ _ _).isCallable, hobject]
  rfl

theorem get_responseValue {heap : Heap} (hfixed : (withResponse h r).KeepsFixed heap) :
    heap.get (responseValue h r) "headers" = .object (headersRef h r) :=
  get_of_ofResponse hfixed (.self _) (Heap.part?_eq_some_iff.mp (part?_headers h r)).1

theorem get_headersRef {heap : Heap} (hfixed : (withResponse h r).KeepsFixed heap) {key : String}
    {v : Value} (hv : Table.find? key (headerFields h r).reverse = some v) :
    heap.get (.object (headersRef h r)) key = v :=
  get_of_ofResponse hfixed (.part (part?_headers h r) (.self _))
    ((value_own?_headersRef h r key).trans hv)

/-- The two functions are still there when the script starts. -/
theorem builtin?_withResponse {i : Nat} {b : Builtin}
    (hb : ((withLookups h r).object (.cell i)).kind = .builtin b) :
    ((withResponse h r).object (.cell i)).kind.builtin? = some b := by
  obtain ⟨before, body, kind, hdraft, -⟩ := draftResponse_spec h r
  have hbefore : ((draftResponse h r).1.object (.cell i)).kind.builtin? = some b := by
    rw [hdraft]
    exact congrArg Kind.builtin? hb
  rw [withResponse_eq]
  refine (Heap.keepsFixed_modify _ _ (by simp [global]) (Object.builtin?_put _ _ _)).builtin i b ?_
  rcases (Heap.froze_deepFreeze _ _ _).object (.cell i) with hsame | hfrozen
  · rw [hsame, hbefore]
  · rw [hfrozen, Object.builtin?_freeze, hbefore]

/-- What a name stands for among the fields of the headers: first come the two functions. -/
theorem find?_headerFields (h : Heap) (r : ResponseRecord) (name : String) :
    Table.find? name (headerFields h r).reverse =
      if name = "valuesOf" then some (.object (.cell (h.cells.size + 1)))
      else if name = "valueOf" then some (.object (valueOfCell h))
      else (Table.find? name r.headers.reverse).map .string := by
  have hmembers : Table.find? name (headerMembers r).reverse =
      (Table.find? name r.headers.reverse).map .string := by
    rw [headerMembers, ← List.map_reverse, Table.find?_map, Table.find?_reverse_entries,
      Table.ofList, Table.get?_insertAll]
    simp
  rw [headerFields, List.reverse_append, Table.find?_append, hmembers]
  by_cases hall : name = "valuesOf"
  · simp [Table.find?, hall]
  · by_cases hone : name = "valueOf"
    · simp [Table.find?, hone]
    · simp [Table.find?, hall, hone]

end Library

/-! ### Evaluation -/

namespace Engine

variable {m m' : Engine}

/-- The machines that a machine comes to. -/
inductive Reaches : Engine → Engine → Prop
  | refl (m : Engine) : Reaches m m
  | step {m m' : Engine} : Reaches m.step m' → Reaches m m'

theorem Reaches.trans {m'' : Engine} (h : Reaches m m') (h' : Reaches m' m'') :
    Reaches m m'' := by
  induction h with
  | refl m => exact h'
  | step _ ih => exact .step (ih h')

/-- A machine that stays as it is comes to nothing else. -/
theorem Reaches.eq_of_step_eq (h : Reaches m m') (hstep : m.step = m) : m' = m := by
  induction h with
  | refl m => rfl
  | step _ ih =>
      rw [hstep] at ih
      exact ih hstep

/-- An expression comes to a value, and nothing else is changed. -/
def Evaluates (m : Engine) (e : Expr) (scope : Nat) (v : Value) : Prop :=
  Reaches { m with control := .eval e scope } (m.give v)

/-- Where nothing waits, an expression has one value. -/
theorem Evaluates.unique {e : Expr} {scope : Nat} {v w : Value} (hstack : m.stack = [])
    (hjobs : m.jobs = []) (hv : m.Evaluates e scope v) (hw : m.Evaluates e scope w) : v = w := by
  have hfixed : ∀ u, (m.give u).step = m.give u := by
    intro u
    simp [give, step, hstack, hjobs]
  have hline : ∀ {a b c : Engine}, Reaches a b → Reaches a c →
      Reaches b c ∨ Reaches c b := by
    intro a b c hb hc
    induction hb with
    | refl a => exact .inl hc
    | step hb ih =>
        cases hc with
        | refl => exact .inr (.step hb)
        | step hc => exact ih hc
  rcases hline hv hw with h | h
  · have heq := h.eq_of_step_eq (hfixed v)
    simpa [give] using (congrArg Engine.control heq).symm
  · have heq := h.eq_of_step_eq (hfixed w)
    simpa [give] using congrArg Engine.control heq

/-- A property with a name is read from what the object comes to. -/
theorem Evaluates.property {e : Expr} {scope : Nat} {r : Ref} (key : String)
    (h : ∀ f, (m.push f).Evaluates e scope (.object r)) :
    m.Evaluates (.property e (.string key) false) scope (m.heap.get (.object r) key) := by
  refine .step (Reaches.trans (h _) (.step ?_))
  exact .refl _

/-- A method with a name is called on what its object comes to, with a text. -/
theorem reaches_call {e : Expr} {scope : Nat} {r : Ref} (key text : String)
    (h : ∀ f, (m.push f).Evaluates e scope (.object r)) :
    let call := Expr.call (.property e (.string key) false) [.one (.string text)] false
    Reaches { m with control := .eval call scope }
      (m.call (m.heap.get (.object r) key) (.object r) [.string text]) := by
  refine .step (Reaches.trans (h _) (.step (.step (.step ?_))))
  exact .refl _

/-! ### The name of the response -/

variable {h : Heap} {r : ResponseRecord} {scope : Nat}

/-- What is fixed at the start of a script after a response is still as it was, and the name `response`
has not been given to something else. -/
structure HasResponse (h : Heap) (r : ResponseRecord) (m : Engine) (scope : Nat) : Prop where
  fixed : (Library.withResponse h r).KeepsFixed m.heap
  name : m.nameValue "response" scope = .ok (Library.responseValue h r)

/-- The function that looks one header up is still there. -/
theorem HasResponse.valueOf (hm : m.HasResponse h r scope) :
    (m.heap.object (Library.valueOfCell h)).kind = .builtin (.host (.headerValue r.headers)) :=
  Kind.eq_of_builtin? (hm.fixed.builtin _ _
    (Library.builtin?_withResponse (congrArg Object.kind (Library.object_lookups h r).1)))

/-- In a script after a response the name means the response, where no scope declares it and the
global object is as it was. -/
theorem hasResponse_of_find? (hfixed : (Library.withResponse h r).KeepsFixed m.heap)
    (hglobal : m.heap.object Library.global = (Library.withResponse h r).object Library.global)
    (hfind : find? m.scopes "response" (m.scopes.size + 1) scope = none) :
    m.HasResponse h r scope := by
  refine ⟨hfixed, ?_⟩
  let frozen : Heap := (Library.draftResponse h r).1.deepFreeze
    (Library.draftResponse h r).1.given.size (Library.responseRef h r)
  have hholds : frozen.Holds Library.global := by
    obtain ⟨before, body, kind, hdraft, -⟩ := Library.draftResponse_spec h r
    refine ((Heap.froze_deepFreeze _ _ _).holds _).mpr ?_
    rw [hdraft]
    show 0 < (Library.withLookups h r).cells.size
    simp [Library.withLookups, Heap.makeBuiltin, Heap.make, Heap.allocate]
  -- the global name has been put last
  have hput : (Library.withResponse h r).object Library.global =
      (frozen.object Library.global).put "response" (Library.responseValue h r) :=
    Heap.object_modify_self hholds _
  have hindex : indexOfKey? "response" = none := by decide
  obtain ⟨s, hown, hvalue⟩ := Object.exists_own?_put (frozen.object Library.global)
    (Library.responseValue h r) hindex (by decide)
  have hslot : m.heap.slot? Library.global "response" = some s := by
    rw [Heap.slot?, Heap.inherited?, hglobal, hput, hown]
  rw [nameValue, if_neg (by decide), hfind, hslot, ← hvalue]

/-- There is a machine with the response in which nothing waits. -/
theorem exists_hasResponse (h : Heap) (r : ResponseRecord) :
    ∃ m : Engine, m.HasResponse h r 0 ∧ m.stack = [] ∧ m.jobs = [] :=
  ⟨{ heap := Library.withResponse h r }, hasResponse_of_find? (.refl _) rfl rfl, rfl, rfl⟩

/-! ### Headers -/

theorem HasResponse.push (hm : m.HasResponse h r scope) (f : Frame) :
    (m.push f).HasResponse h r scope :=
  ⟨hm.fixed, hm.name⟩

/-- The expression `response.headers`. -/
def headersExpr : Expr := .property (.name "response") (.string "headers") false

/-- The expression `response.headers["name"]`. -/
def headerEntry (name : String) : Expr := .property headersExpr (.string name) false

/-- The expression `response.headers.valueOf("name")`. -/
def headerCall (name : String) : Expr :=
  .call (.property headersExpr (.string "valueOf") false) [.one (.string name)] false

/-- The name is evaluated in one step. -/
theorem evaluates_response (hm : m.HasResponse h r scope) :
    m.Evaluates (.name "response") scope (Library.responseValue h r) := by
  have hname : ({ m with control := .eval (.name "response") scope } : Engine).nameValue
      "response" scope = .ok (Library.responseValue h r) := hm.name
  have hstep : ({ m with control := .eval (.name "response") scope } : Engine).step =
      m.give (Library.responseValue h r) := by
    simp only [step, Engine.eval, hname]
    rfl
  refine .step ?_
  rw [hstep]
  exact .refl _

theorem evaluates_headersExpr (hm : m.HasResponse h r scope) :
    m.Evaluates headersExpr scope (.object (Library.headersRef h r)) := by
  rw [← Library.get_responseValue hm.fixed]
  exact Evaluates.property "headers" fun f => evaluates_response (hm.push f)

/-- What the entry of a name comes to: one of the functions, or the value of the last field of this
name. -/
theorem evaluates_headerEntry (hm : m.HasResponse h r scope) {name : String} {v : Value}
    (hv : Table.find? name (Library.headerFields h r).reverse = some v) :
    m.Evaluates (headerEntry name) scope v := by
  have hobject := fun f => evaluates_headersExpr (hm.push f)
  rw [← Library.get_headersRef hm.fixed hv]
  exact Evaluates.property name hobject

/-- The function `valueOf` finds the first header of a name, in whatever case. -/
theorem evaluates_headerCall (hm : m.HasResponse h r scope) (name : String) :
    m.Evaluates (headerCall name) scope (.ofText? (r.headers.find? name)) := by
  have hobject := fun f => evaluates_headersExpr (hm.push f)
  have hcall := reaches_call "valueOf" name hobject
  have hfunction : m.heap.get (.object (Library.headersRef h r)) "valueOf" =
      .object (Library.valueOfCell h) :=
    Library.get_headersRef hm.fixed (by rw [Library.find?_headerFields]; rfl)
  rw [hfunction] at hcall
  refine hcall.trans (.step ?_)
  have hstep : (m.call (.object (Library.valueOfCell h)) (.object (Library.headersRef h r))
      [.string name]).step = m.give (.ofText? (r.headers.find? name)) := by
    simp only [step, call, startCall, hm.valueOf]
    rfl
  rw [hstep]
  exact .refl _

/-! The two expressions are what a script writes so. -/

example :
    parse "response.headers['Age']; response.headers.valueOf('Age')" =
      .ok [.expression (headerEntry "Age"), .expression (headerCall "Age")] := by
  rfl

end Engine

end HttpSuite.Script
