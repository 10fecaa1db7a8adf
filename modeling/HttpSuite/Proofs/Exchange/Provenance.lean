/-
HttpSuite/Proofs/Exchange/Provenance.lean

Where the texts of the store come from.  In an exchange with a response the store is written by

    scripts before the request    what each of them wrote to the variables, in order
    extractions                   the text of the first node at the path, where there is one

and by nothing else: the store at the end is that at the start with these entries put into it, so
that of several with one name the last one stays (`Table.get?_insertAll`).

What an extraction gives to its name can be asked for again by a reference.  The record of the
response is kept under the name of the unit, the reference finds its way back to it if it is cut
behind that name (`resolve_body`), and it reads a path behind a dollar sign and a full stop as the
extraction did.

Main result: the store after an exchange with a response (`runUnit_store`).
-/
import HttpSuite.Proofs.Document.WellFormed
import HttpSuite.Proofs.Exchange.Course
import HttpSuite.Proofs.Variables.BodyPath

namespace HttpSuite

/-! ### Extractions -/

/-- The first node that an expression selects from a body. -/
def ResponseBody.first? (body : ResponseBody) (path : String) : Option Json :=
  body.json?.bind (JsonPath.first · path)

/-- Every extraction of a compiled unit has a path behind a dollar sign and a full stop. -/
theorem Document.pathMark_of_mem_extractions {w : World} {st : VariableState} {content : String}
    {u : RequestUnit} (hu : u ∈ (Document.compile w st content).1.units) {key path : String}
    (h : (key, path) ∈ u.extractions) : Directive.pathMark <+: path.toList := by
  obtain ⟨c, s, rfl, -⟩ := Compilation.exists_compileSection_of_mem w _ hu
  obtain ⟨d, hd, hextraction⟩ := List.mem_filterMap.mp h
  have hwell := Compilation.wellFormed_directives w c s d hd
  cases d with
  | pathExtraction key' path' =>
      obtain ⟨rfl, rfl⟩ : key' = key ∧ path' = path := by simpa using hextraction
      exact hwell.2
  | nameBinding id => simp at hextraction
  | staticAssignment key' value => simp at hextraction

namespace Exchange

/-- The entries that extractions put into the store: for each that leads to a node its key and the
text of the node. -/
def matchesOf (body : ResponseBody) (extractions : List (String × String)) :
    List (String × String) :=
  extractions.filterMap fun (key, path) => (body.first? path).map fun v => (key, v.render)

theorem extract_eq_insertAll (body : ResponseBody) (store : Table String)
    (extractions : List (String × String)) :
    extract body store extractions = store.insertAll (matchesOf body extractions) := by
  induction extractions generalizing store with
  | nil => rfl
  | cons extraction rest ih =>
      obtain ⟨key, path⟩ := extraction
      have hmatches : matchesOf body ((key, path) :: rest) =
          ((body.first? path).map fun v => (key, v.render)).toList ++ matchesOf body rest := by
        cases h : body.first? path <;> simp [matchesOf, h]
      rw [hmatches, Table.insertAll_append, ← ih, extract, ResponseBody.first?]
      cases body.json?.bind (JsonPath.first · path) <;> rfl

/-- The last extraction of a key that leads to a node gives the key its text. -/
theorem get?_insertAll_matchesOf {body : ResponseBody} {store : Table String}
    {before earlier later : List (String × String)} {key path : String} {v : Json}
    (hv : body.first? path = some v)
    (hlater : ∀ path', (key, path') ∈ later → body.first? path' = none) :
    (store.insertAll (before ++ matchesOf body (earlier ++ (key, path) :: later))).get? key =
      some v.render := by
  have hrest : Table.find? key (matchesOf body later).reverse = none := by
    refine Table.find?_eq_none_iff.mpr fun entry hentry hkey => ?_
    obtain ⟨⟨key', path'⟩, hmem, hmatch⟩ := List.mem_filterMap.mp (List.mem_reverse.mp hentry)
    obtain ⟨node, hnode, rfl⟩ := Option.map_eq_some_iff.mp hmatch
    obtain rfl : key' = key := hkey
    rw [hlater path' hmem] at hnode
    simp at hnode
  have hmatches : matchesOf body (earlier ++ (key, path) :: later) =
      matchesOf body earlier ++ (key, v.render) :: matchesOf body later := by
    simp [matchesOf, List.filterMap_append, hv]
  rw [hmatches, ← List.append_assoc, Table.get?_insertAll, List.reverse_append, List.reverse_cons,
    Table.find?_append, Table.find?_append, hrest]
  simp [Table.find?]

/-- What is kept of a response: its record under the name of the unit, and what extractions match.
-/
theorem keep_eq (u : RequestUnit) (record : ResponseRecord) (v : VariableState) :
    keep u record v = { v with
      store := v.store.insertAll (matchesOf record.body u.extractions)
      responses := u.requestId.elim v.responses (v.responses.insert · record) } := by
  rw [keep, ← extract_eq_insertAll]
  cases u.requestId <;> rfl

variable {σ τ : Type} {e : Setting σ τ}

/-! ### Scripts -/

/-- The entries that scripts put into the store, in order. -/
def writesOf (reports : List ScriptReport) : List (String × String) :=
  reports.flatMap (·.result.writes.entries)

/-- Scripts before a request put what they wrote into the store. -/
theorem RanBefore.store_eq {s s' : Session σ τ} {references : List ScriptReference}
    {reports : List ScriptReport} (h : RanBefore e s references reports s') :
    s'.vars.store = s.vars.store.insertAll (writesOf reports) := by
  induction h with
  | nil s => rfl
  | cons _ _ ih =>
      rw [ih]
      exact (Table.insertAll_append _ _ _).symm

/-! ### Exchanges -/

/-- An exchange with a response: the scripts before the request all succeeded, and the variables are
those that they left with what is kept of the response. -/
theorem exists_of_response? {s : Session σ τ} {number : Nat} {u : RequestUnit} {response : Response}
    (h : (runUnit e s number u).1.response? = some response) :
    ∃ before after s₁ generators, (runUnit e s number u).1.scripts = before ++ after ∧
      RanBefore e s u.preScripts before s₁ ∧ AllSucceeded before ∧
      (runUnit e s number u).2.vars = keep u response.record { s₁.vars with generators } := by
  cases hmethod : u.method with
  | none => simp [runUnit, hmethod, Result.response?] at h
  | some method =>
      rcases hrun : runUnit e s number u with ⟨r, s'⟩
      rw [hrun] at h
      cases (runUnit_eq_iff hmethod).mp hrun with
      | @answered before s₁ request vars response' transport after globals sandbox hran hall
          hrequest =>
          obtain rfl : response' = response := Option.some.inj h
          obtain ⟨generators, hvars⟩ := requestOf_snd (e := e) s₁ u method
          rw [hrequest] at hvars
          obtain rfl : vars = { s₁.vars with generators } := hvars
          exact ⟨before, after, s₁, generators, rfl, hran, hall, rfl⟩
      | scriptFailed => simp [Result.response?, failure] at h
      | notBuilt => simp [Result.response?, failure] at h
      | notSent => simp [Result.response?, failure] at h

/-- **Provenance**: after an exchange with a response the store is that before it with what the
scripts before the request wrote and then what the extractions match in the body.  When the name of
the unit does not hold the mark of references, the last extraction of a key that matches has given
the key what a reference to its path stands for; its path is one of a compiled unit, or starts as
those do. -/
theorem runUnit_store (e : Setting σ τ) (s : Session σ τ) (number : Nat) (u : RequestUnit)
    {response : Response} (h : (runUnit e s number u).1.response? = some response) :
    let r := (runUnit e s number u).1
    let s' := (runUnit e s number u).2
    let body := response.record.body
    (∃ before after s₁, r.scripts = before ++ after ∧ RanBefore e s u.preScripts before s₁ ∧
      AllSucceeded before ∧
      s'.vars.store =
        s.vars.store.insertAll (writesOf before ++ matchesOf body u.extractions)) ∧
    ∀ id earlier key path later v, u.requestId = some id → ¬ ".response".toList <:+: id.toList →
      u.extractions = earlier ++ (key, path) :: later → body.first? path = some v →
      (∀ path', (key, path') ∈ later → body.first? path' = none) →
      (Directive.pathMark <+: path.toList ∨
        ∃ w st content, u ∈ (Document.compile w st content).1.units) →
      s'.vars.store.get? key = some v.render ∧
        s'.vars.responses.resolve (id ++ ".response.body." ++ path) = some v.render := by
  intro r s' body
  obtain ⟨before, after, s₁, generators, hscripts, hran, hall, hvars⟩ := exists_of_response? h
  rw [keep_eq] at hvars
  have hstore : s'.vars.store =
      s.vars.store.insertAll (writesOf before ++ matchesOf body u.extractions) := by
    rw [Table.insertAll_append, ← hran.store_eq]
    exact congrArg VariableState.store hvars
  refine ⟨⟨before, after, s₁, hscripts, hran, hall, hstore⟩, ?_⟩
  intro id earlier key path later v hid hmark hextractions hv hlater hpath
  refine ⟨by rw [hstore, hextractions, get?_insertAll_matchesOf hv hlater], ?_⟩
  have hstart : Directive.pathMark <+: path.toList := by
    rcases hpath with hpath | ⟨w, st, content, hu⟩
    · exact hpath
    · have hmem : (key, path) ∈ u.extractions := by simp [hextractions]
      exact Document.pathMark_of_mem_extractions hu hmem
  -- the record under the name of the unit is that of the response
  have hrecord : s'.vars.responses.get? id = some response.record := by
    have hresponses := congrArg VariableState.responses hvars
    rw [hid] at hresponses
    rw [hresponses, Option.elim_some, Table.get?_insert, if_pos rfl]
  rw [NamedResponses.resolve_body _ hmark, hrecord, Option.bind_some,
    ResponseRecord.bodyValue?_of_pathMark hstart]
  exact congrArg (Option.map Json.render) hv

/-- Two scripts and an extraction give texts to one name, and another extraction leads nowhere. -/
theorem runUnit_store_reference :
    let response : Response := ⟨⟨200, by decide⟩, [], "\x7b\"id\": 7\x7d", 0⟩
    let e : Setting Unit :=
      { world := {}, send := fun _ t => (.ok response, t)
        runScript := ⟨fun source globals _ t =>
          ({ success := true, writes := Table.insert ∅ "k" source }, globals, t)⟩ }
    let u : RequestUnit :=
      { method := some .get, target := "x://y", requestId := some "a"
        preScripts := [.inline "1", .inline "2"]
        directives := [.pathExtraction "k" "$.id", .pathExtraction "k" "$.no"] }
    let s' := (runUnit e ⟨{}, ∅, (), ()⟩ 1 u).2
    (runUnit e ⟨{}, ∅, (), ()⟩ 1 u).1.response? = some response ∧
      s'.vars.store.get? "k" = some "7" ∧
      s'.vars.responses.resolve ("a" ++ ".response.body." ++ "$.id") = some "7" := by
  intro response e u s'
  have hpieces : placeholder.pieces u.target.toList =
      [.char 'x', .char ':', .char '/', .char '/', .char 'y'] := by decide +kernel
  have hfill : ∀ v : VariableState, v.substitute e.world u.target = ("x://y", v) := by
    intro v
    rw [VariableState.substitute, HoleStyle.fillFrom, hpieces]
    rfl
  have hresponse : (runUnit e ⟨{}, ∅, (), ()⟩ 1 u).1.response? = some response := by
    show (carryOut e ⟨{}, ∅, (), ()⟩ 1 u .get).1.response? = _
    simp only [carryOut, hfill]
    rfl
  have hid : (response.record.body.first? "$.id").map Json.render = some "7" := by
    decide +kernel
  obtain ⟨v, hv, hrender⟩ := Option.map_eq_some_iff.mp hid
  have hno : ∀ path, ("k", path) ∈ [("k", "$.no")] → response.record.body.first? path = none := by
    intro path hpath
    obtain rfl : path = "$.no" := by simpa using hpath
    exact Option.isNone_iff_eq_none.mp (by decide +kernel)
  have hmark : ¬ ".response".toList <:+: "a".toList := by decide
  have hpath : Directive.pathMark <+: "$.id".toList := by decide
  have h := (runUnit_store e ⟨{}, ∅, (), ()⟩ 1 u hresponse).2 "a" [] "k" "$.id" [("k", "$.no")]
    v rfl hmark rfl hv hno (.inl hpath)
  rw [hrender] at h
  exact ⟨hresponse, h⟩

end Exchange

end HttpSuite
