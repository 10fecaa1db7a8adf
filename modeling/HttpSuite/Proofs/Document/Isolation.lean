/-
HttpSuite/Proofs/Document/Isolation.lean

What the sections of a document have in common.  A section is compiled with the variables that the
sections before it left, and all that it leaves itself are the assignments among its directives: the
directives of its unit are the log of what it wrote (`writeLog_compileSection`).  The diagnostics so
far are only added to (`oneSection_behind`), so what a section is compiled to depends on nothing but
the variables in front of it, and a run over sections is the list of these outcomes,

    outcomes w v (s :: rest) = outcome w v s :: outcomes w (outcome w v s).2.vars rest

put together (`sections_eq_outcomes`).  A section that assigns nothing can then be changed for
another one without a trace in the outcomes of the others.

Main result: the log is exact, sections without assignments are isolated from each other, and the
units and diagnostics of a document are those of its sections in order (`sections_isolated`).
-/
import HttpSuite.Proofs.Document.Account

namespace HttpSuite

open RequestZone.LineRole (directive?)

/-! ### The log -/

namespace VariableState

variable (w : World)

/-- Directives that assign nothing change nothing. -/
theorem carryOutAll_snd_of_assigned {v : VariableState} {ds : List Directive}
    (h : v.assigned w ds = []) : (v.carryOutAll w ds).2 = v := by
  induction ds with
  | nil => rfl
  | cons d ds ih =>
      cases d with
      | staticAssignment key value => simp [assigned, carryOutAll, RequestUnit.assignments] at h
      | nameBinding id => exact ih h
      | pathExtraction key path => exact ih h

end VariableState

namespace Compilation

variable (w : World)

/-- The assignments of a unit are those of the lines before the tests. -/
theorem assignments_compileSection (c : Compilation) (s : Section) :
    (compileSection w c s).1.assignments = c.vars.assigned w (s.roles.filterMap directive?) := by
  have hnone : ({ directives := (TestZone.ofLines s.zones.2).extractions } :
      RequestUnit).assignments = [] := by
    refine List.filterMap_eq_nil_iff.mpr fun d hd => ?_
    obtain ⟨line, -, hline⟩ := TestZone.exists_of_mem_extractions hd
    obtain ⟨key, path, rfl, -⟩ := TestZone.exists_of_roleOf hline
    rfl
  rw [RequestUnit.assignments, (requestAccount w s c).directives, List.filterMap_append]
  exact (congrArg (_ ++ ·) hnone).trans (List.append_nil _)

/-- `WriteLog u v v'`: the assignments of the unit are all that was written between `v` and `v'`. -/
structure WriteLog (u : RequestUnit) (v v' : VariableState) : Prop where
  overrides : v'.overrides = v.overrides
  responses : v'.responses = v.responses
  store : v'.store = v.store.insertAll u.assignments

/-- **The log**: the directives of a unit are what the compilation of its section wrote. -/
theorem writeLog_compileSection (c : Compilation) (s : Section) :
    WriteLog (compileSection w c s).1 c.vars (compileSection w c s).2.vars := by
  obtain ⟨generators, hvars⟩ := c.vars.carryOutAll_snd w (s.roles.filterMap directive?)
  rw [← (requestAccount w s c).vars] at hvars
  rw [hvars]
  exact ⟨rfl, rfl, by rw [assignments_compileSection]⟩

/-- A section that assigns nothing leaves the variables as they are. -/
theorem vars_of_assignments {c : Compilation} {s : Section}
    (h : (compileSection w c s).1.assignments = []) : (compileSection w c s).2.vars = c.vars := by
  rw [assignments_compileSection] at h
  rw [(requestAccount w s c).vars, VariableState.carryOutAll_snd_of_assigned w h]

/-! ### Outcomes -/

/-- A compilation with diagnostics in front. -/
def behind (ds : List Diagnostic) (c : Compilation) : Compilation :=
  { c with diagnostics := ds ++ c.diagnostics }

section Behind

variable (ds : List Diagnostic) (c : Compilation)

theorem report_behind (index : Nat) (problem : Problem) :
    (c.behind ds).report index problem = (c.report index problem).behind ds := by
  simp [report, behind]

theorem directive_behind (index : Nat) (u : RequestUnit) (d : Except DirectiveError Directive) :
    directive w index u (c.behind ds) d =
      ((directive w index u c d).1, (directive w index u c d).2.behind ds) := by
  cases d with
  | error cause => exact congrArg (u, ·) (report_behind ds c index _)
  | ok d => cases d <;> rfl

/-- A line is read alike whatever was reported before. -/
theorem line_behind (index : Nat) (u : RequestUnit) (role : RequestZone.LineRole) :
    line w index u (c.behind ds) role =
      ((line w index u c role).1, (line w index u c role).2.behind ds) := by
  cases role with
  | directive d => exact directive_behind w ds c index u d
  | stray text => exact congrArg (u, ·) (report_behind ds c index _)
  | namelessHeader text => exact congrArg (u, ·) (report_behind ds c index _)
  | _ => rfl

theorem lines_behind (index : Nat) (u : RequestUnit) (roles : List RequestZone.LineRole) :
    lines w index u (c.behind ds) roles =
      ((lines w index u c roles).1, (lines w index u c roles).2.behind ds) := by
  induction roles generalizing u c with
  | nil => rfl
  | cons role roles ih => rw [lines_cons, line_behind, ih, lines_cons]

theorem compileSection_behind (s : Section) :
    compileSection w (c.behind ds) s =
      ((compileSection w c s).1, (compileSection w c s).2.behind ds) := by
  have hopened : (c.behind ds).opened s = (c.opened s).behind ds := by simp [opened, behind]
  rw [compileSection_eq, compileSection_eq, hopened, lines_behind]
  rfl

theorem globals_behind (s : Section) :
    globals w (c.behind ds) s = (globals w c s).behind ds := by
  rw [globals_eq, globals_eq]
  simp [behind]

/-- **One section**: a section is compiled alike whatever was reported before. -/
theorem oneSection_behind (s : Section) :
    oneSection w (c.behind ds) s = ((oneSection w c s).1, (oneSection w c s).2.behind ds) := by
  cases hkind : s.kind with
  | globals => simp [oneSection, hkind, globals_behind]
  | request =>
      simp only [oneSection, hkind, compileSection_behind]
      split
      · rw [report_behind]
      · rfl

end Behind

/-- What a section is compiled to with variables: its unit, if it has a request line, its own
diagnostics and the variables after it. -/
def outcome (v : VariableState) (s : Section) : Option RequestUnit × Compilation :=
  oneSection w ⟨v, []⟩ s

/-- The outcomes of sections one after the other. -/
def outcomes (v : VariableState) : List Section → List (Option RequestUnit × Compilation)
  | [] => []
  | s :: rest => outcome w v s :: outcomes (outcome w v s).2.vars rest

/-- The variables after sections. -/
def varsAfter (v : VariableState) (ss : List Section) : VariableState :=
  ss.foldl (fun v s => (outcome w v s).2.vars) v

theorem oneSection_eq_outcome (c : Compilation) (s : Section) :
    oneSection w c s =
      ((outcome w c.vars s).1, (outcome w c.vars s).2.behind c.diagnostics) := by
  rw [outcome, ← oneSection_behind]
  simp [behind]

/-- **The run**: sections are compiled to their outcomes put together. -/
theorem sections_eq_outcomes (c : Compilation) (ss : List Section) :
    sections w c ss =
      ((outcomes w c.vars ss).filterMap (·.1),
        { vars := varsAfter w c.vars ss
          diagnostics := c.diagnostics ++ (outcomes w c.vars ss).flatMap (·.2.diagnostics) }) := by
  induction ss generalizing c with
  | nil => simp [sections, outcomes, varsAfter]
  | cons s rest ih =>
      simp only [sections, oneSection_eq_outcome, ih, outcomes, varsAfter, List.foldl_cons, behind,
        List.flatMap_cons, List.append_assoc, List.filterMap_cons]
      cases (outcome w c.vars s).1 <;> rfl

theorem outcomes_append (v : VariableState) (ss ss' : List Section) :
    outcomes w v (ss ++ ss') = outcomes w v ss ++ outcomes w (varsAfter w v ss) ss' := by
  induction ss generalizing v with
  | nil => rfl
  | cons s ss ih => exact congrArg (outcome w v s :: ·) (ih _)

theorem length_outcomes (v : VariableState) (ss : List Section) :
    (outcomes w v ss).length = ss.length := by
  induction ss generalizing v with
  | nil => rfl
  | cons s ss ih => exact congrArg (· + 1) (ih _)

/-! ### Isolation -/

variable {w}

/-- A section with a request leaves the variables that its compilation leaves. -/
theorem vars_outcome {s : Section} (h : s.kind = .request) (v : VariableState) :
    (outcome w v s).2.vars = (compileSection w ⟨v, []⟩ s).2.vars := by
  simp only [outcome, oneSection, h]
  split <;> rfl

/-- `Isolated w v front s s' back`: with `s'` in the place of `s`, the other sections are compiled
to what they were, and the variables after them are the same. -/
structure Isolated (w : World) (v : VariableState) (front : List Section) (s s' : Section)
    (back : List Section) : Prop where
  others : ∀ i ≠ front.length,
    (outcomes w v (front ++ s' :: back))[i]? = (outcomes w v (front ++ s :: back))[i]?
  vars : varsAfter w v (front ++ s' :: back) = varsAfter w v (front ++ s :: back)

/-- A section that leaves the variables alone stands in the outcomes for itself. -/
theorem outcomes_of_vars {v : VariableState} {front : List Section} {s : Section}
    (h : (outcome w (varsAfter w v front) s).2.vars = varsAfter w v front) (back : List Section) :
    outcomes w v (front ++ s :: back) = outcomes w v front ++
        outcome w (varsAfter w v front) s :: outcomes w (varsAfter w v front) back ∧
      varsAfter w v (front ++ s :: back) = varsAfter w (varsAfter w v front) back := by
  refine ⟨?_, ?_⟩
  · rw [outcomes_append, outcomes, h]
  · rw [varsAfter, List.foldl_append, List.foldl_cons]
    exact congrArg (varsAfter w · back) h

/-- **Isolation**: requests that assign nothing are exchanged without a trace elsewhere. -/
theorem isolated {v : VariableState} {front : List Section} {s s' : Section}
    (hkind : s.kind = .request) (hkind' : s'.kind = .request)
    (h : (compileSection w ⟨varsAfter w v front, []⟩ s).1.assignments = [])
    (h' : (compileSection w ⟨varsAfter w v front, []⟩ s').1.assignments = [])
    (back : List Section) : Isolated w v front s s' back := by
  obtain ⟨houtcomes, hvars⟩ := outcomes_of_vars
    ((vars_outcome hkind _).trans (vars_of_assignments w h)) back
  obtain ⟨houtcomes', hvars'⟩ := outcomes_of_vars
    ((vars_outcome hkind' _).trans (vars_of_assignments w h')) back
  refine ⟨fun i hi => ?_, hvars'.trans hvars.symm⟩
  rw [houtcomes, houtcomes']
  rcases Nat.lt_or_gt_of_ne hi with hi | hi
  · rw [List.getElem?_append_left (by rwa [length_outcomes]),
      List.getElem?_append_left (by rwa [length_outcomes])]
  · -- behind the one that is exchanged
    obtain ⟨k, rfl⟩ : ∃ k, i = front.length + 1 + k := ⟨i - front.length - 1, by omega⟩
    rw [List.getElem?_append_right (by rw [length_outcomes]; omega),
      List.getElem?_append_right (by rw [length_outcomes]; omega), length_outcomes,
      show front.length + 1 + k - front.length = k + 1 by omega, List.getElem?_cons_succ,
      List.getElem?_cons_succ]

/-! ### The tally -/

/-- `Tally ss units ds`: each section with a request gives a unit or is reported to have none, and
the diagnostics come in the order of the sections. -/
structure Tally (ss : List Section) (units : List RequestUnit) (ds : List Diagnostic) : Prop where
  requests : units.length + ds.countP (·.problem.kind = .missingRequestLine) =
    ss.countP (·.kind = .request)
  order : ds.Pairwise (·.place ≤ ·.place)

section Tally

variable (w)

/-- What is reported before a section is at its end is not that its request line is missing. -/
theorem diagnostics_compileSection (v : VariableState) (s : Section) :
    ∃ problems : List Problem,
      (compileSection w ⟨v, []⟩ s).2.diagnostics = problems.map (⟨s.index, ·⟩) ∧
        ∀ p ∈ problems, p.kind ≠ .missingRequestLine := by
  refine ⟨_, (requestAccount w s ⟨v, []⟩).diagnostics, fun p hp => ?_⟩
  rcases List.mem_append.mp hp with hp | hp
  · obtain ⟨n, -, rfl⟩ := List.mem_map.mp hp
    exact nofun
  · rcases kind_of_mem_problems s.roles p hp with hkind | hkind <;> simp [hkind]

/-- What is reported of a section with assignments alone is not that its request line is missing. -/
theorem diagnostics_globals (v : VariableState) (s : Section) :
    ∃ problems : List Problem,
      (globals w ⟨v, []⟩ s).diagnostics = problems.map (⟨s.index, ·⟩) ∧
        ∀ p ∈ problems, p.kind ≠ .missingRequestLine := by
  refine ⟨_, congrArg Compilation.diagnostics (globals_eq w ⟨v, []⟩ s), fun p hp => ?_⟩
  rcases kind_of_mem_globalProblems _ _ p hp with hkind | hkind <;> simp [hkind]

/-- A section with a request gives a unit or is reported to have none, and no other section does. -/
theorem requests_outcome (v : VariableState) (s : Section) :
    ∃ problems : List Problem,
      (outcome w v s).2.diagnostics = problems.map (⟨s.index, ·⟩) ∧
        (outcome w v s).1.toList.length + problems.countP (·.kind = .missingRequestLine) =
          [s].countP (·.kind = .request) := by
  cases hkind : s.kind with
  | globals =>
      obtain ⟨problems, hproblems, hnone⟩ := diagnostics_globals w v s
      have hcount : problems.countP (·.kind = .missingRequestLine) = 0 := by
        simpa [List.countP_eq_zero] using hnone
      refine ⟨problems, ?_, ?_⟩
      · simpa only [outcome, oneSection, hkind] using hproblems
      · simp [outcome, oneSection, hkind, hcount]
  | request =>
      obtain ⟨problems, hproblems, hnone⟩ := diagnostics_compileSection w v s
      have hcount : problems.countP (·.kind = .missingRequestLine) = 0 := by
        simpa [List.countP_eq_zero] using hnone
      rcases hcompiled : compileSection w ⟨v, []⟩ s with ⟨u, c⟩
      rw [hcompiled] at hproblems
      replace hproblems : c.diagnostics = problems.map (⟨s.index, ·⟩) := hproblems
      cases hmethod : u.method with
      | none =>
          refine ⟨problems ++ [.missingRequestLine u.name], ?_, ?_⟩
          · simp [outcome, oneSection, hkind, hcompiled, hmethod, report, hproblems]
          · have hmissing : (Problem.missingRequestLine u.name).kind = .missingRequestLine := rfl
            simp [outcome, oneSection, hkind, hcompiled, hmethod, hcount, hmissing]
      | some method =>
          refine ⟨problems, ?_, ?_⟩
          · simpa [outcome, oneSection, hkind, hcompiled, hmethod] using hproblems
          · simp [outcome, oneSection, hkind, hcompiled, hmethod, hcount]

/-- A diagnostic of sections names one of them. -/
theorem exists_index_of_mem_outcomes {v : VariableState} {ss : List Section} {d : Diagnostic}
    (h : d ∈ (outcomes w v ss).flatMap (·.2.diagnostics)) : ∃ s ∈ ss, d.place = s.index := by
  induction ss generalizing v with
  | nil => simp [outcomes] at h
  | cons s ss ih =>
      rw [outcomes, List.flatMap_cons] at h
      rcases List.mem_append.mp h with h | h
      · obtain ⟨problems, hproblems, -⟩ := requests_outcome w v s
        rw [hproblems] at h
        obtain ⟨problem, -, rfl⟩ := List.mem_map.mp h
        exact ⟨s, List.mem_cons_self, rfl⟩
      · obtain ⟨s', hs', hplace⟩ := ih h
        exact ⟨s', List.mem_cons_of_mem _ hs', hplace⟩

/-- **The tally** of sections that are numbered in order. -/
theorem tally_outcomes (v : VariableState) {ss : List Section}
    (h : ss.Pairwise (·.index ≤ ·.index)) :
    Tally ss ((outcomes w v ss).filterMap (·.1)) ((outcomes w v ss).flatMap (·.2.diagnostics)) := by
  induction ss generalizing v with
  | nil => exact ⟨rfl, .nil⟩
  | cons s ss ih =>
      obtain ⟨hs, hss⟩ := List.pairwise_cons.mp h
      obtain ⟨hrest, horder⟩ := ih (outcome w v s).2.vars hss
      obtain ⟨problems, hproblems, hone⟩ := requests_outcome w v s
      refine ⟨?_, ?_⟩
      · rw [outcomes, List.filterMap_cons, List.flatMap_cons, List.countP_append, hproblems,
          List.countP_map, ← List.singleton_append, List.countP_append, ← hrest, ← hone]
        cases (outcome w v s).1 <;> simp [Function.comp_def] <;> omega
      · rw [outcomes, List.flatMap_cons, hproblems, List.pairwise_append]
        refine ⟨?_, horder, fun d hd d' hd' => ?_⟩
        · simp [List.pairwise_iff_getElem]
        · obtain ⟨problem, -, rfl⟩ := List.mem_map.mp hd
          obtain ⟨s', hs', hplace⟩ := exists_index_of_mem_outcomes w hd'
          exact Nat.le_trans (hs s' hs') (Nat.le_of_eq hplace.symm)

end Tally

end Compilation

/-- The sections of a document are numbered in order. -/
theorem Section.pairwise_index_split (content : List Char) :
    (split content).Pairwise (·.index ≤ ·.index) := by
  simp only [split, List.pairwise_iff_getElem, List.getElem_mapIdx]
  exact fun i j _ _ hij => Nat.le_of_lt hij

/-- **Sections**: the directives of a unit are the log of what its section wrote, sections are
compiled to their outcomes one after the other, requests that assign nothing are isolated from the
other sections, and each request of a document is a unit or reported. -/
theorem Compilation.sections_isolated (w : World) :
    (∀ c s, WriteLog (compileSection w c s).1 c.vars (compileSection w c s).2.vars) ∧
    (∀ c ss, sections w c ss =
      ((outcomes w c.vars ss).filterMap (·.1),
        { vars := varsAfter w c.vars ss
          diagnostics := c.diagnostics ++ (outcomes w c.vars ss).flatMap (·.2.diagnostics) })) ∧
    (∀ v front s text back, s.kind = .request →
      (compileSection w ⟨varsAfter w v front, []⟩ s).1.assignments = [] →
      (compileSection w ⟨varsAfter w v front, []⟩ { s with text }).1.assignments = [] →
      Isolated w v front s { s with text } back) ∧
    ∀ st content, Tally (Section.split content.toList) (Document.compile w st content).1.units
      (Document.compile w st content).1.diagnostics := by
  refine ⟨writeLog_compileSection w, sections_eq_outcomes w, ?_, fun st content => ?_⟩
  · intro v front s text back hkind h h'
    have hkind' : ({ s with text } : Section).kind = .request := hkind
    exact isolated hkind hkind' h h' back
  · rw [Document.compile, sections_eq_outcomes]
    exact tally_outcomes w st (Section.pairwise_index_split content.toList)

/-- A request in the place of a section without one, between an assignment and what refers to it. -/
theorem Compilation.sections_isolated_malformed :
    let front : List Section := [⟨0, .globals, "@host = h".toList⟩]
    let s : Section := ⟨1, .request, "### broken\nno request".toList⟩
    let text := "### a\nGET http://\x7b\x7bhost\x7d\x7d/\n\n> \x7b%\n@host = i".toList
    let back : List Section := [⟨2, .request, "### b\nGET http://\x7b\x7bhost\x7d\x7d/b".toList⟩]
    Isolated {} {} front s { s with text } back ∧
      (outcomes {} {} (front ++ { s with text } :: back)).filterMap (·.1.map (·.target)) =
        ["http://h/", "http://h/b"] := by
  intro front s text back
  refine ⟨(sections_isolated {}).2.2.1 {} front s text back rfl ?_ ?_, ?_⟩ <;> decide +kernel

end HttpSuite
