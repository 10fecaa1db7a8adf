/-
HttpSuite/Proofs/Document/Account.lean

Where the lines of a section go.  Each role that a line can have has one place:

    request line     the method and the start of the target
    query            the end of the target
    header           the headers, or a diagnostic if it has no name
    directive        the directives, or a diagnostic if it is none
    stray            a diagnostic
    body             the lines that the body is made of

The unit and the diagnostics of a section hold the lines of each role in order and nothing else
(`Adds`, by induction from one line), so the lines are counted again in what is made of them.  In a
section with assignments alone a line is an assignment that is carried out, or is reported.

Main result: no line is lost, of a section with a request or with assignments (`lines_accounted`).
-/
import HttpSuite.Proofs.Document.Roles
import HttpSuite.Proofs.Variables.Frame

namespace HttpSuite

open Text (content unlines)

/-! ### Directives -/

/-- The directive that a line writes. -/
def Line.directive? (line : List Char) : Option Directive :=
  match Directive.ofLine? line with
  | some (.ok d) => some d
  | _ => none

/-- What is reported of a line between assignments. -/
def Line.globalProblem? (line : List Char) : Option Problem :=
  match Directive.ofLine? line with
  | some (.ok _) => none
  | some (.error cause) => some (.invalidDirective cause)
  | none => some (.strayGlobal (String.ofList line))

/-- The lines of a section that are not blank. -/
def Section.globalLines (s : Section) : List (List Char) := content (Text.lines s.text)

/-- The directives of a section with assignments alone. -/
def Section.globalDirectives (s : Section) : List Directive :=
  s.globalLines.filterMap Line.directive?

/-- What is reported of a directive that has no request. -/
def Directive.homeless? : Directive → Option Problem
  | .staticAssignment _ _ => none
  | d => some (.homelessDirective d)

namespace VariableState

/-- Carries out directives one after the other: an assignment fills its text and goes to the store.
-/
def carryOutAll (w : World) (v : VariableState) : List Directive → List Directive × VariableState
  | [] => ([], v)
  | .staticAssignment key value :: ds =>
    let (value, v) := v.substitute w value
    let (ds, v) := carryOutAll w (v.set key value) ds
    (.staticAssignment key value :: ds, v)
  | d :: ds =>
    let (ds, v) := carryOutAll w v ds
    (d :: ds, v)

variable (w : World)

/-- What directives assign, with the texts filled. -/
def assigned (v : VariableState) (ds : List Directive) : List (String × String) :=
  ({ directives := (v.carryOutAll w ds).1 : RequestUnit }).assignments

theorem carryOutAll_append (v : VariableState) (ds ds' : List Directive) :
    v.carryOutAll w (ds ++ ds') =
      ((v.carryOutAll w ds).1 ++ ((v.carryOutAll w ds).2.carryOutAll w ds').1,
        ((v.carryOutAll w ds).2.carryOutAll w ds').2) := by
  induction ds generalizing v with
  | nil => rfl
  | cons d ds ih =>
      cases d <;> simp only [List.cons_append, carryOutAll, ih]

theorem length_carryOutAll (v : VariableState) (ds : List Directive) :
    (v.carryOutAll w ds).1.length = ds.length := by
  induction ds generalizing v with
  | nil => rfl
  | cons d ds ih => cases d <;> simp only [carryOutAll, List.length_cons, ih]

/-- Directives change the store, and perhaps generators that were asked. -/
theorem carryOutAll_snd (v : VariableState) (ds : List Directive) :
    ∃ generators, (v.carryOutAll w ds).2 =
      { v with generators, store := v.store.insertAll (v.assigned w ds) } := by
  induction ds generalizing v with
  | nil => exact ⟨v.generators, rfl⟩
  | cons d ds ih =>
      cases d with
      | staticAssignment key value =>
          obtain ⟨generators, hfill⟩ := v.substitute_snd w value
          obtain ⟨generators', hrest⟩ :=
            ih ((v.substitute w value).2.set key (v.substitute w value).1)
          refine ⟨generators', ?_⟩
          simp only [carryOutAll, assigned, hfill] at hrest ⊢
          exact hrest
      | nameBinding id => exact ih v
      | pathExtraction key path => exact ih v

/-- What directives do to the store is what they assign. -/
theorem carryOutAll_snd_store (v : VariableState) (ds : List Directive) :
    (v.carryOutAll w ds).2.store = v.store.insertAll (v.assigned w ds) := by
  obtain ⟨generators, hcarried⟩ := v.carryOutAll_snd w ds
  rw [hcarried]

end VariableState

namespace Compilation

variable (w : World)

open RequestZone (LineRole)
open RequestZone.LineRole (request? query? header? directive? problem?)

/-- `Adds w index u c headers ds problems u' c'`: from `u` and `c` on, the headers are put into the
unit, the directives are carried out and put into it, and the problems are reported. -/
structure Adds (w : World) (index : Nat) (u : RequestUnit) (c : Compilation)
    (headers : List (String × String)) (ds : List Directive) (problems : List Problem)
    (u' : RequestUnit) (c' : Compilation) : Prop where
  headers : u'.headers = u.headers ++ headers
  directives : u'.directives = u.directives ++ (c.vars.carryOutAll w ds).1
  preScripts : u'.preScripts = u.preScripts
  postScripts : u'.postScripts = u.postScripts
  vars : c'.vars = (c.vars.carryOutAll w ds).2
  diagnostics : c'.diagnostics = c.diagnostics ++ problems.map (⟨index, ·⟩)

section Adds

variable {w} {index : Nat} {u u' u'' : RequestUnit} {c c' c'' : Compilation}
variable {headers headers' : List (String × String)} {ds ds' : List Directive}
variable {problems problems' : List Problem}

/-- Nothing is added by a change of the method and the target. -/
theorem Adds.nil (method : Option Method) (target : String) :
    Adds w index u c [] [] [] { u with method, target } c where
  headers := (List.append_nil _).symm
  directives := (List.append_nil _).symm
  preScripts := rfl
  postScripts := rfl
  vars := rfl
  diagnostics := (List.append_nil _).symm

theorem Adds.append (h : Adds w index u c headers ds problems u' c')
    (h' : Adds w index u' c' headers' ds' problems' u'' c'') :
    Adds w index u c (headers ++ headers') (ds ++ ds') (problems ++ problems') u'' c'' where
  headers := by rw [h'.headers, h.headers, List.append_assoc]
  directives := by
    rw [h'.directives, h.directives, h.vars, VariableState.carryOutAll_append, List.append_assoc]
  preScripts := h'.preScripts.trans h.preScripts
  postScripts := h'.postScripts.trans h.postScripts
  vars := by rw [h'.vars, h.vars, VariableState.carryOutAll_append]
  diagnostics := by rw [h'.diagnostics, h.diagnostics, List.map_append, List.append_assoc]

theorem adds_header (key value : String) :
    Adds w index u c [(key, value)] [] [] { u with headers := u.headers ++ [(key, value)] } c where
  headers := rfl
  directives := (List.append_nil _).symm
  preScripts := rfl
  postScripts := rfl
  vars := rfl
  diagnostics := (List.append_nil _).symm

theorem adds_report (problem : Problem) :
    Adds w index u c [] [] [problem] u (c.report index problem) where
  headers := (List.append_nil _).symm
  directives := (List.append_nil _).symm
  preScripts := rfl
  postScripts := rfl
  vars := rfl
  diagnostics := rfl

theorem adds_directive (d : Directive) :
    Adds w index u c [] [d] [] (directive w index u c (.ok d)).1
      (directive w index u c (.ok d)).2 := by
  cases d <;> exact ⟨(List.append_nil _).symm, rfl, rfl, rfl, rfl, (List.append_nil _).symm⟩

end Adds

theorem lines_cons (index : Nat) (u : RequestUnit) (c : Compilation) (role : LineRole)
    (roles : List LineRole) :
    lines w index u c (role :: roles) =
      lines w index (line w index u c role).1 (line w index u c role).2 roles :=
  rfl

/-- **One line**: a line is put where its role says. -/
theorem adds_line (index : Nat) (u : RequestUnit) (c : Compilation) (role : LineRole) :
    Adds w index u c ([role].filterMap header?) ([role].filterMap directive?)
      ([role].filterMap problem?) (line w index u c role).1 (line w index u c role).2 := by
  cases role with
  | directive d =>
      cases d with
      | ok d => exact adds_directive d
      | error cause => exact adds_report (.invalidDirective cause)
  | stray text => exact adds_report (.strayLine text)
  | header key value => exact adds_header key value
  | namelessHeader text => exact adds_report (.namelessHeader text)
  | request l => exact .nil (some l.method) l.target
  | query text => exact .nil u.method (u.target ++ text)
  | blank => exact .nil u.method u.target
  | body l => exact .nil u.method u.target

/-- The lines of the roles are put where the roles say. -/
theorem adds_lines (index : Nat) (u : RequestUnit) (c : Compilation) (roles : List LineRole) :
    Adds w index u c (roles.filterMap header?) (roles.filterMap directive?)
      (roles.filterMap problem?) (lines w index u c roles).1 (lines w index u c roles).2 := by
  induction roles generalizing u c with
  | nil => exact .nil u.method u.target
  | cons role roles ih =>
      have h := (adds_line w index u c role).append (ih _ _)
      simp only [← List.filterMap_append, List.singleton_append] at h
      exact h

/-- Without a request line among them, lines put their queries behind the target. -/
theorem lines_of_no_request (index : Nat) (u : RequestUnit) (c : Compilation)
    {roles : List LineRole} (h : ∀ role ∈ roles, role.request? = none) :
    (lines w index u c roles).1.method = u.method ∧
      (lines w index u c roles).1.target =
        u.target ++ String.join (roles.filterMap query?) := by
  induction roles generalizing u c with
  | nil => exact ⟨rfl, (String.append_empty).symm⟩
  | cons role roles ih =>
      obtain ⟨hrole, hroles⟩ := List.forall_mem_cons.mp h
      obtain ⟨hmethod, htarget⟩ := ih _ (line w index u c role).2 hroles
      rw [lines_cons, hmethod, htarget]
      cases role with
      | request l => simp [request?] at hrole
      | directive d =>
          cases d with
          | ok d => cases d <;> exact ⟨rfl, rfl⟩
          | error cause => exact ⟨rfl, rfl⟩
      | query text =>
          refine ⟨rfl, ?_⟩
          show u.target ++ text ++ String.join _ = u.target ++ String.join (text :: _)
          rw [String.join_cons, String.append_assoc]
      | _ => exact ⟨rfl, rfl⟩

/-- The lines up to the tests give at most one method, and a target from the request line and the
queries behind it. -/
theorem lines_roles_awaitingMethod (index : Nat) {u : RequestUnit} (c : Compilation)
    (hmethod : u.method = none) (htarget : u.target = "") {zone : List (List Char)}
    {roles : List LineRole} (hzone : RequestZone.roles .awaitingMethod zone = roles) :
    (lines w index u c roles).1.method.toList = (roles.filterMap request?).map (·.method) ∧
      (lines w index u c roles).1.target =
        String.join ((roles.filterMap request?).map (·.target) ++ roles.filterMap query?) := by
  subst hzone
  induction zone generalizing u c with
  | nil => exact ⟨by rw [lines]; simp [RequestZone.roles, hmethod], htarget⟩
  | cons first zone ih =>
      have hroles : RequestZone.roles .awaitingMethod (first :: zone) =
          (RequestZone.roleOf .awaitingMethod first).1 ::
            RequestZone.roles (RequestZone.roleOf .awaitingMethod first).2 zone := rfl
      simp only [hroles, lines_cons]
      rcases RequestZone.roleOf_awaitingMethod first with ⟨l, hrole⟩ | ⟨hmode, hrequest, hquery⟩
      · -- the line is the request line, and none comes after it
        have hrest : ∀ role ∈ RequestZone.roles (.headers true) zone, role.request? = none :=
          RequestZone.request?_eq_none_of_mem_roles (by simp)
        have hrequests : (LineRole.request l :: RequestZone.roles (.headers true) zone).filterMap
            request? = [l] :=
          congrArg (l :: ·) (List.filterMap_eq_nil_iff.mpr hrest)
        have hqueries : (LineRole.request l :: RequestZone.roles (.headers true) zone).filterMap
            query? = (RequestZone.roles (.headers true) zone).filterMap query? :=
          rfl
        obtain ⟨hmethod', htarget'⟩ :=
          lines_of_no_request w index (line w index u c (.request l)).1
            (line w index u c (.request l)).2 hrest
        simp only [hrole, hrequests, hqueries, hmethod', htarget']
        exact ⟨rfl, String.join_cons.symm⟩
      · -- the line adds nothing, and the request line is still to come
        rw [hmode, List.filterMap_cons_none hrequest, List.filterMap_cons_none hquery]
        obtain ⟨hmethod', htarget'⟩ :=
          lines_of_no_request w index u c (List.forall_mem_singleton.mpr hrequest)
        rw [List.filterMap_cons_none hquery, htarget] at htarget'
        exact ih _ (hmethod'.trans hmethod) htarget'

/-! ### Diagnostics -/

/-- The number of diagnostics of a kind that are new in `c'`. -/
def newOfKind (c c' : Compilation) (kind : DiagnosticKind) : Nat :=
  (c'.diagnostics.drop c.diagnostics.length).countP (·.problem.kind = kind)

theorem newOfKind_eq_countP {c c' : Compilation} {index : Nat} {problems : List Problem}
    (h : c'.diagnostics = c.diagnostics ++ problems.map (⟨index, ·⟩)) (kind : DiagnosticKind) :
    c.newOfKind c' kind = problems.countP (·.kind = kind) := by
  rw [newOfKind, h, List.drop_left, List.countP_map]
  rfl

theorem foldl_report {α : Type} (c : Compilation) (index : Nat) (f : α → Problem) (xs : List α) :
    xs.foldl (fun c x => c.report index (f x)) c =
      { c with diagnostics := c.diagnostics ++ xs.map fun x => ⟨index, f x⟩ } := by
  induction xs generalizing c with
  | nil => simp
  | cons x xs ih => rw [List.foldl_cons, ih]; simp [report]

/-- Problems of two kinds are counted by kind. -/
theorem length_eq_countP_kind {problems : List Problem}
    (h : ∀ p ∈ problems, p.kind = .invalidDirective ∨ p.kind = .ignoredLine) :
    problems.length = problems.countP (·.kind = .invalidDirective) +
      problems.countP (·.kind = .ignoredLine) := by
  induction problems with
  | nil => rfl
  | cons p problems ih =>
      obtain ⟨hp, hproblems⟩ := List.forall_mem_cons.mp h
      rw [List.length_cons, ih hproblems]
      rcases hp with hp | hp <;> simp [hp] <;> omega

/-! ### Sections -/

/-- The unit of a section before its lines are read: its name and its scripts. -/
def startOf (s : Section) : RequestUnit where
  name := (nameAndRest s.text).1
  preScripts := s.scan.scripts .preRequest
  postScripts := s.scan.scripts .postResponse

/-- The diagnostics before the lines of a section are read: scripts that are never closed. -/
def opened (c : Compilation) (s : Section) : Compilation :=
  { c with diagnostics := c.diagnostics ++
      s.scan.unterminated.map fun n => ⟨s.index, .unterminatedScript (n + 1)⟩ }

theorem compileSection_eq (c : Compilation) (s : Section) :
    compileSection w c s =
      let (u, c) := lines w s.index (startOf s) (c.opened s) s.roles
      ({ u with
          target := c.vars.substituteStatic u.target
          headers := u.headers.map fun h => (h.1, c.vars.substituteStatic h.2)
          body := RequestZone.bodyOf (s.roles.filterMap (·.body?))
          directives := u.directives ++ (TestZone.ofLines s.zones.2).extractions
          tests := (TestZone.ofLines s.zones.2).blocks }, c) := by
  -- the stages of the compilation, once the lines behind the name are those that are left
  have hrest := s.nameAndRest_snd
  rw [startOf, opened, ← foldl_report c s.index (fun n => .unterminatedScript (n + 1)),
    compileSection]
  rcases hname : nameAndRest s.text with ⟨name, rest⟩
  rw [hname] at hrest
  obtain rfl : rest = s.unnamed := hrest
  rfl

/-- A line between assignments, from the unit that stands for no request on. -/
def globalLine (index : Nat) (r : RequestUnit × Compilation) (l : List Char) :
    RequestUnit × Compilation :=
  match Directive.ofLine? l with
  | some d => directive w index r.1 r.2 d
  | none => (r.1, r.2.report index (.strayGlobal (String.ofList l)))

/-- Reports a directive that needs a request. -/
def homeless (index : Nat) (c : Compilation) : Directive → Compilation
  | .staticAssignment _ _ => c
  | d => c.report index (.homelessDirective d)

theorem globals_eq_foldl (c : Compilation) (s : Section) :
    let r := s.globalLines.foldl (globalLine w s.index) ({}, c)
    globals w c s = r.1.directives.foldl (homeless s.index) r.2 :=
  rfl

theorem adds_globalLine (index : Nat) (r : RequestUnit × Compilation) (l : List Char) :
    Adds w index r.1 r.2 [] ([l].filterMap Line.directive?) ([l].filterMap Line.globalProblem?)
      (globalLine w index r l).1 (globalLine w index r l).2 := by
  rcases hl : Directive.ofLine? l with - | (cause | d) <;>
    simp only [List.filterMap_cons, List.filterMap_nil, Line.directive?, Line.globalProblem?,
      globalLine, hl]
  · exact adds_report _
  · exact adds_report _
  · exact adds_directive d

/-- The lines between assignments are carried out or reported. -/
theorem adds_globalLines (index : Nat) (r : RequestUnit × Compilation) (ls : List (List Char)) :
    Adds w index r.1 r.2 [] (ls.filterMap Line.directive?) (ls.filterMap Line.globalProblem?)
      (ls.foldl (globalLine w index) r).1 (ls.foldl (globalLine w index) r).2 := by
  induction ls generalizing r with
  | nil => exact .nil r.1.method r.1.target
  | cons l ls ih =>
      have h := (adds_globalLine w index r l).append (ih _)
      simp only [← List.filterMap_append, List.singleton_append] at h
      exact h

theorem foldl_homeless (c : Compilation) (index : Nat) (ds : List Directive) :
    ds.foldl (homeless index) c =
      { c with diagnostics :=
          c.diagnostics ++ (ds.filterMap Directive.homeless?).map (⟨index, ·⟩) } := by
  induction ds generalizing c with
  | nil => simp
  | cons d ds ih =>
      rw [List.foldl_cons, ih]
      cases d <;> simp [List.filterMap_cons, Directive.homeless?, homeless, report]

/-- A section of assignments carries out its directives, and reports what is none of them and what
needs a request. -/
theorem globals_eq (c : Compilation) (s : Section) :
    let carried := c.vars.carryOutAll w s.globalDirectives
    let problems := s.globalLines.filterMap Line.globalProblem? ++
      carried.1.filterMap Directive.homeless?
    globals w c s =
      { vars := carried.2, diagnostics := c.diagnostics ++ problems.map (⟨s.index, ·⟩) } := by
  intro carried problems
  have hlines := adds_globalLines w s.index ({}, c) s.globalLines
  rw [globals_eq_foldl, foldl_homeless, hlines.directives, hlines.vars, hlines.diagnostics,
    List.append_assoc, ← List.map_append]
  rfl

/-! ### Accounts -/

open RequestZone.LineRole (request? query? header? directive? problem?)

/-- Where the lines of a section with a request go, from `c` to the unit `u` and `c'`. -/
structure RequestAccount (w : World) (s : Section) (c : Compilation) (u : RequestUnit)
    (c' : Compilation) : Prop where
  /-- Behind the name, each line belongs to a script or is kept. -/
  unnamed : content (Text.lines (unlines s.unnamed)) = content s.unnamed
  setAside : ScriptScan.SetAside (Text.lines (unlines s.unnamed)) s.scan.blocks s.scan.kept
  preScripts : u.preScripts = s.scan.scripts .preRequest
  postScripts : u.postScripts = s.scan.scripts .postResponse
  /-- Of those that are kept, each one before the tests has a role. -/
  zone : content s.zones.1 = (content s.scan.kept).takeWhile (!Line.isTestDelimiter ·)
  reads : List.Forall₂ RequestZone.Reads s.zones.1 s.roles
  /-- Each role is found again in one place. -/
  method : u.method.toList = (s.roles.filterMap request?).map (·.method)
  target : u.target = c'.vars.substituteStatic
    (String.join ((s.roles.filterMap request?).map (·.target) ++ s.roles.filterMap query?))
  headers : u.headers =
    (s.roles.filterMap header?).map fun h => (h.1, c'.vars.substituteStatic h.2)
  directives : u.directives = (c.vars.carryOutAll w (s.roles.filterMap directive?)).1 ++
    (TestZone.ofLines s.zones.2).extractions
  vars : c'.vars = (c.vars.carryOutAll w (s.roles.filterMap directive?)).2
  body : u.body = RequestZone.bodyOf (s.roles.filterMap (·.body?))
  diagnostics : c'.diagnostics = c.diagnostics ++
    (s.scan.unterminated.map (fun n => Problem.unterminatedScript (n + 1)) ++
      s.roles.filterMap problem?).map (⟨s.index, ·⟩)
  /-- So the lines that are not blank are counted by what is made of them. -/
  count : ((content s.scan.kept).takeWhile (!Line.isTestDelimiter ·)).length =
    u.method.toList.length + (s.roles.filterMap query?).length + u.headers.length +
      (c.vars.carryOutAll w (s.roles.filterMap directive?)).1.length +
      c.newOfKind c' .invalidDirective + c.newOfKind c' .ignoredLine +
      (content (s.roles.filterMap (·.body?))).length

/-- Where the lines of a section with assignments alone go, from `c` to `c'`. -/
structure GlobalsAccount (w : World) (s : Section) (c c' : Compilation) : Prop where
  /-- A line is a directive or reported, and a directive is an assignment or reported. -/
  vars : c'.vars = (c.vars.carryOutAll w s.globalDirectives).2
  store : c'.vars.store = c.vars.store.insertAll (c.vars.assigned w s.globalDirectives)
  diagnostics : c'.diagnostics = c.diagnostics ++
    (s.globalLines.filterMap Line.globalProblem? ++
      (c.vars.carryOutAll w s.globalDirectives).1.filterMap Directive.homeless?).map
        (⟨s.index, ·⟩)
  /-- So the lines that are not blank are counted by what is made of them. -/
  count : s.globalLines.length = (c.vars.assigned w s.globalDirectives).length +
    c.newOfKind c' .invalidDirective + c.newOfKind c' .ignoredLine

/-- What is reported of the lines before the tests is of two kinds. -/
theorem kind_of_mem_problems (roles : List RequestZone.LineRole) :
    ∀ p ∈ roles.filterMap problem?, p.kind = .invalidDirective ∨ p.kind = .ignoredLine := by
  intro p hp
  obtain ⟨role, -, hrole⟩ := List.mem_filterMap.mp hp
  revert hrole
  fun_cases problem? role with
  | case1 cause =>
      rintro ⟨⟩
      exact .inl rfl
  | case2 text =>
      rintro ⟨⟩
      exact .inr rfl
  | case3 text =>
      rintro ⟨⟩
      exact .inr rfl
  | case4 => simp

/-- What is reported of a section with assignments alone is of the same kinds. -/
theorem kind_of_mem_globalProblems (ls : List (List Char)) (ds : List Directive) :
    ∀ p ∈ ls.filterMap Line.globalProblem? ++ ds.filterMap Directive.homeless?,
      p.kind = .invalidDirective ∨ p.kind = .ignoredLine := by
  intro p hp
  rcases List.mem_append.mp hp with hp | hp
  · obtain ⟨l, -, hl⟩ := List.mem_filterMap.mp hp
    revert hl
    fun_cases Line.globalProblem? l with
    | case1 => simp
    | case2 cause =>
        rintro ⟨⟩
        exact .inl rfl
    | case3 =>
        rintro ⟨⟩
        exact .inr rfl
  · obtain ⟨d, -, hd⟩ := List.mem_filterMap.mp hp
    revert hd
    fun_cases Directive.homeless? d with
    | case1 => simp
    | case2 =>
        rintro ⟨⟩
        exact .inr rfl

/-- A line between assignments is a directive or is reported. -/
theorem length_globalLines (ls : List (List Char)) :
    ls.length =
      (ls.filterMap Line.directive?).length + (ls.filterMap Line.globalProblem?).length := by
  induction ls with
  | nil => rfl
  | cons l ls ih =>
      rw [List.length_cons, ih]
      rcases hl : Directive.ofLine? l with - | (cause | d) <;>
        simp [Line.directive?, Line.globalProblem?, hl] <;> omega

/-- A directive is an assignment or has no request. -/
theorem length_assignments (ds : List Directive) :
    ds.length = ({ directives := ds : RequestUnit }).assignments.length +
      (ds.filterMap Directive.homeless?).length := by
  induction ds with
  | nil => rfl
  | cons d ds ih =>
      rw [List.length_cons, ih]
      cases d <;>
        simp [RequestUnit.assignments, List.filterMap_cons, Directive.homeless?] <;> omega

/-- **Request**: what a section with a request is compiled to accounts for its lines. -/
theorem requestAccount (s : Section) (c : Compilation) :
    RequestAccount w s c (compileSection w c s).1 (compileSection w c s).2 := by
  have hadds := adds_lines w s.index (startOf s) (c.opened s) s.roles
  have hread := lines_roles_awaitingMethod w s.index (c.opened s) (u := startOf s) rfl rfl
    (rfl : _ = s.roles)
  rcases hlines : lines w s.index (startOf s) (c.opened s) s.roles with ⟨u, c'⟩
  rw [hlines] at hadds hread
  obtain ⟨hmethod, htarget⟩ := hread
  have hheaders : u.headers = s.roles.filterMap header? := hadds.headers
  have hdirectives : u.directives = (c.vars.carryOutAll w (s.roles.filterMap directive?)).1 :=
    hadds.directives
  have hdiagnostics : c'.diagnostics = c.diagnostics ++
      (s.scan.unterminated.map (fun n => Problem.unterminatedScript (n + 1)) ++
        s.roles.filterMap problem?).map (⟨s.index, ·⟩) := by
    refine hadds.diagnostics.trans ?_
    simp [opened]
  have hreads : List.Forall₂ RequestZone.Reads s.zones.1 s.roles :=
    RequestZone.reads_roles .awaitingMethod s.zones.1
  rw [compileSection_eq, hlines]
  exact {
    unnamed := Text.content_lines_unlines fun l hl =>
      Text.newline_not_mem_lines (Section.mem_lines_of_mem_unnamed hl)
    setAside := ScriptScan.setAside_ofLines 0 _
    preScripts := hadds.preScripts
    postScripts := hadds.postScripts
    zone := s.content_zones_fst
    reads := hreads
    method := hmethod
    target := congrArg c'.vars.substituteStatic htarget
    headers := congrArg (List.map _) hheaders
    directives := congrArg (· ++ _) hdirectives
    vars := hadds.vars
    body := rfl
    diagnostics := hdiagnostics
    count := by
      -- scripts that are never closed are reported as a third kind
      have hopen : ∀ kind ≠ .unterminatedScript, (s.scan.unterminated.map
          (fun n => Problem.unterminatedScript (n + 1))).countP (·.kind = kind) = 0 := by
        intro kind hkind
        simp [Problem.kind, hkind.symm]
      have hkinds := length_eq_countP_kind (kind_of_mem_problems s.roles)
      rw [← s.content_zones_fst, RequestZone.length_content_eq hreads, hmethod, List.length_map,
        VariableState.length_carryOutAll, newOfKind_eq_countP hdiagnostics,
        newOfKind_eq_countP hdiagnostics, List.countP_append, List.countP_append,
        hopen _ (by simp), hopen _ (by simp), hkinds]
      simp [hheaders]
      omega
  }

/-- **Globals**: what a section with assignments alone does accounts for its lines. -/
theorem globalsAccount (s : Section) (c : Compilation) :
    GlobalsAccount w s c (globals w c s) := by
  have hglobals := globals_eq w c s
  have hdiagnostics := congrArg Compilation.diagnostics hglobals
  have hlines : s.globalLines.length =
      s.globalDirectives.length + (s.globalLines.filterMap Line.globalProblem?).length :=
    length_globalLines s.globalLines
  have hcarried := VariableState.length_carryOutAll w c.vars s.globalDirectives
  -- of the directives that are carried out, those without a request are reported
  rw [length_assignments] at hcarried
  have hkinds := length_eq_countP_kind (kind_of_mem_globalProblems s.globalLines
    (c.vars.carryOutAll w s.globalDirectives).1)
  rw [List.length_append] at hkinds
  exact {
    vars := congrArg Compilation.vars hglobals
    store := (congrArg (·.vars.store) hglobals).trans
      (VariableState.carryOutAll_snd_store w c.vars _)
    diagnostics := hdiagnostics
    count := by
      rw [newOfKind_eq_countP hdiagnostics, newOfKind_eq_countP hdiagnostics,
        VariableState.assigned]
      omega
  }

end Compilation

/-- **No line is lost**: the lines of a section with a request, and those of a section with
assignments alone, are all found again in what the section is compiled to. -/
theorem Compilation.lines_accounted (w : World) (s : Section) (c : Compilation) :
    RequestAccount w s c (compileSection w c s).1 (compileSection w c s).2 ∧
      GlobalsAccount w s c (globals w c s) :=
  ⟨requestAccount w s c, globalsAccount w s c⟩

end HttpSuite
