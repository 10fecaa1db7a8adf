/-
HttpSuite/Proofs/Exchange/Verdict.lean

When a run is reported as passed.  The verdict on a unit is put together in several places: a script
that fails ends the exchange early, so do a request that cannot be made and a response that does not
come, and what is left is judged by its scripts, tests, assertions and status.  `Flawless` says what
all of this is meant to amount to, stage by stage and without any verdict in it.

Main result: the summary of a run says that all passed exactly when each of its units is flawless in
the session that the units before it left (`allPassed_run_iff`), and its counts add up.
-/
import HttpSuite.Proofs.Exchange.Course
import Mathlib.Logic.Basic

namespace HttpSuite

/-! ### Lines of test blocks -/

namespace Assertion

/-- A line of a test block that is neither blank nor a comment. -/
def Meant (line : String) : Prop :=
  Text.trim line.toList ≠ [] ∧ ¬ ['#'] <+: Text.trim line.toList ∧
    ¬ ['/', '/'] <+: Text.trim line.toList

/-- A line that reads as an assertion which a response passes. -/
def Holds (response : Response) (line : String) : Prop :=
  ∃ assertion, Expression.ofLine (Text.trim line.toList) = .ok assertion ∧
    (assertion.evaluate response).passed = true

theorem isAssertion_iff {line : String} :
    isAssertion (Text.trim line.toList) = true ↔ Meant line := by
  simp [isAssertion, Meant, ← Text.startsWith_iff, and_assoc]

/-- A line that does not read as an assertion is not passed. -/
theorem lineResult_passed_iff {response : Response} {line : String} :
    (lineResult response (Text.trim line.toList)).passed = true ↔ Holds response line := by
  unfold lineResult Holds
  cases h : Expression.ofLine (Text.trim line.toList) with
  | ok assertion => simp
  | error cause => simp [Result.ofError]

end Assertion

namespace Exchange

variable {σ τ : Type} (e : Setting σ τ)

theorem forall_assertionsOf_iff {u : RequestUnit} {response : Response} :
    (∀ a ∈ assertionsOf u response, a.passed = true) ↔
      ∀ block ∈ u.tests, ∀ line ∈ block.lines,
        Assertion.Meant line → Assertion.Holds response line := by
  simp only [assertionsOf, Assertion.results, List.mem_flatMap, List.mem_map, List.mem_filter]
  constructor
  · intro h block hblock line hline hmeant
    have hassertion := Assertion.isAssertion_iff.mpr hmeant
    exact Assertion.lineResult_passed_iff.mp
      (h _ ⟨block, hblock, _, ⟨⟨line, hline, rfl⟩, hassertion⟩, rfl⟩)
  · rintro h a ⟨block, hblock, _, ⟨⟨line, hline, rfl⟩, hmeant⟩, rfl⟩
    exact Assertion.lineResult_passed_iff.mpr
      (h block hblock line hline (Assertion.isAssertion_iff.mp hmeant))

theorem assertionsOf_eq_nil_iff {u : RequestUnit} {response : Response} :
    assertionsOf u response = [] ↔
      ∀ block ∈ u.tests, ∀ line ∈ block.lines, ¬ Assertion.Meant line := by
  simp only [assertionsOf, Assertion.results, List.flatMap_eq_nil_iff, List.map_eq_nil_iff,
    List.filter_eq_nil_iff, List.mem_map]
  constructor
  · intro h block hblock line hline hmeant
    exact h block hblock _ ⟨line, hline, rfl⟩ (Assertion.isAssertion_iff.mpr hmeant)
  · rintro h block hblock _ ⟨line, hline, rfl⟩ hmeant
    exact h block hblock line hline (Assertion.isAssertion_iff.mp hmeant)

/-! ### Flawless exchanges -/

/-- All tests of some scripts passed. -/
def TestsPassed (reports : List ScriptReport) : Prop :=
  ∀ report ∈ reports, ∀ test ∈ report.result.tests, test.passed = true

/-- Nothing was checked: the scripts had no tests, and no line of a test block is an assertion. -/
def Unchecked (u : RequestUnit) (reports : List ScriptReport) : Prop :=
  (∀ block ∈ u.tests, ∀ line ∈ block.lines, ¬ Assertion.Meant line) ∧
    ∀ report ∈ reports, report.result.tests = []

/-- An exchange without a flaw: the scripts before the request succeed, the request can be made, a
response comes, the scripts after it succeed, all tests pass and all assertions hold; and where
nothing was checked, the status is one of success. -/
inductive Flawless (s : Session σ τ) (u : RequestUnit) (method : Method) : Prop
  | intro {before s₁ request vars response transport after g}
      (ranBefore : RanBefore e s u.preScripts before s₁)
      (succeededBefore : AllSucceeded before)
      (made : requestOf e s₁ u method = (.ok request, vars))
      (sent : e.send request s₁.transport = (.ok response, transport))
      (ranAfter : RanAfter e response.record (s₁.globals, s₁.sandbox) u.postScripts after g)
      (succeededAfter : AllSucceeded after)
      (tests : TestsPassed (before ++ after))
      (assertions : ∀ block ∈ u.tests, ∀ line ∈ block.lines,
        Assertion.Meant line → Assertion.Holds response line)
      (status : Unchecked u (before ++ after) →
        200 ≤ response.status.code ∧ response.status.code ≤ 299)

variable {e}

theorem all_allPassed_iff {reports : List ScriptReport} :
    (reports.all (·.result.allPassed)) = true ↔ AllSucceeded reports ∧ TestsPassed reports := by
  simp only [List.all_eq_true, Script.Result.allPassed, Bool.and_eq_true, AllSucceeded, TestsPassed]
  exact ⟨fun h => ⟨fun report hr => (h report hr).1, fun report hr => (h report hr).2⟩,
    fun h report hr => ⟨h.1 report hr, h.2 report hr⟩⟩

theorem checked_iff {u : RequestUnit} {response : Response} {reports : List ScriptReport} :
    (!(assertionsOf u response).isEmpty || reports.any (!·.result.tests.isEmpty)) = true ↔
      ¬ Unchecked u reports := by
  rw [Unchecked, ← @assertionsOf_eq_nil_iff u response, not_and_or]
  simp

/-- The verdict on an answered request, spelled out. -/
theorem verdict_iff {u : RequestUnit} {response : Response} {reports : List ScriptReport} :
    verdict response (assertionsOf u response) reports = true ↔
      (AllSucceeded reports ∧ TestsPassed reports) ∧
        (∀ block ∈ u.tests, ∀ line ∈ block.lines,
          Assertion.Meant line → Assertion.Holds response line) ∧
        (Unchecked u reports → 200 ≤ response.status.code ∧ response.status.code ≤ 299) := by
  have hsuccess : response.status.isSuccess = true ↔
      200 ≤ response.status.code ∧ response.status.code ≤ 299 := by
    simp [Status.isSuccess]
  unfold verdict
  rw [Bool.and_eq_true, Bool.and_eq_true, all_allPassed_iff, Bool.or_eq_true, checked_iff, hsuccess,
    ← imp_iff_not_or, List.all_eq_true, forall_assertionsOf_iff, and_assoc]

/-- A unit with a method succeeds exactly when its exchange is flawless. -/
theorem carryOut_success_iff {s : Session σ τ} {number : Nat} {u : RequestUnit} {method : Method} :
    (carryOut e s number u method).1.success = true ↔ Flawless e s u method := by
  constructor
  · intro h
    rcases hrun : carryOut e s number u method with ⟨r, s'⟩
    rw [hrun] at h
    -- the three early ends report a failure, so the exchange came to the last one
    cases carryOut_eq_iff.mp hrun with
    | scriptFailed => simp [failure] at h
    | notBuilt => simp [failure] at h
    | notSent => simp [failure] at h
    | answered hbefore hall hmade hsent hafter =>
        obtain ⟨⟨hsucceeded, htests⟩, hassertions, hstatus⟩ := verdict_iff.mp h
        have hsucceededAfter : AllSucceeded _ := fun report hr =>
          hsucceeded report (List.mem_append_right _ hr)
        exact .intro hbefore hall hmade hsent hafter hsucceededAfter htests hassertions hstatus
  · rintro ⟨hbefore, hall, hmade, hsent, hafter, hsucceededAfter, htests, hassertions, hstatus⟩
    have hsucceeded : AllSucceeded _ := fun report hr =>
      (List.mem_append.mp hr).elim (hall report) (hsucceededAfter report)
    rw [carryOut_eq_iff.mpr (.answered hbefore hall hmade hsent hafter)]
    exact verdict_iff.mpr ⟨⟨hsucceeded, htests⟩, hassertions, hstatus⟩

/-- What counts as no failure of a unit. -/
theorem runUnit_passed_iff {s : Session σ τ} {number : Nat} {u : RequestUnit} :
    let r := (runUnit e s number u).1
    r.isSkipped = true ∨ r.success = true ↔
      ∀ method, u.method = some method → Flawless e s u method := by
  cases hmethod : u.method with
  | none => simp [runUnit, hmethod, Result.isSkipped]
  | some method =>
      have hskipped : (carryOut e s number u method).1.isSkipped = false := by
        rcases hrun : carryOut e s number u method with ⟨r, s'⟩
        cases carryOut_eq_iff.mp hrun <;> rfl
      simp [runUnit, hmethod, hskipped, carryOut_success_iff]

/-! ### Summaries -/

/-- No result is counted both as passed and as skipped. -/
theorem passed_add_skipped (results : List Result) :
    (Summary.ofResults results).passed + (Summary.ofResults results).skipped =
      results.countP fun r => r.isSkipped || r.success := by
  simp only [Summary.ofResults]
  induction results with
  | nil => rfl
  | cons r rest ih =>
      rw [List.countP_cons, ← ih]
      cases hskipped : r.isSkipped <;> cases hsuccess : r.success <;>
        simp [hskipped, hsuccess] <;> omega

/-- The count of the results that failed does not fall below zero. -/
theorem passed_add_skipped_le (results : List Result) :
    (Summary.ofResults results).passed + (Summary.ofResults results).skipped ≤
      (Summary.ofResults results).total := by
  rw [passed_add_skipped]
  exact List.countP_le_length

/-- Every result is counted as passed, failed or skipped. -/
theorem passed_add_failed_add_skipped (results : List Result) :
    let summary := Summary.ofResults results
    summary.passed + summary.failed + summary.skipped = summary.total := by
  have hle := passed_add_skipped_le results
  simp only [Summary.failed]
  omega

/-- A summary says that all passed when each result was skipped or succeeded. -/
theorem allPassed_ofResults_iff (results : List Result) :
    (Summary.ofResults results).allPassed = true ↔
      ∀ r ∈ results, r.isSkipped = true ∨ r.success = true := by
  have hle := passed_add_skipped_le results
  -- a difference that is cut off at zero would be zero, too, so the bound is needed here
  have hall : (Summary.ofResults results).allPassed = true ↔
      (Summary.ofResults results).passed + (Summary.ofResults results).skipped =
        (Summary.ofResults results).total := by
    rw [Summary.allPassed, decide_eq_true_iff, Summary.failed]
    omega
  rw [hall, passed_add_skipped]
  simp only [Summary.ofResults, List.countP_eq_length, Bool.or_eq_true]

/-- **No false green**: the summary of a run says that all passed exactly when the exchange of each
unit with a method is flawless in the session that the units before it left.  Every unit is counted
once, as passed, failed or skipped, and the count of those that failed is a difference that does not
fall below zero. -/
theorem allPassed_run_iff (e : Setting σ τ) (s : Session σ τ) (units : List RequestUnit) :
    let summary := Summary.ofResults (run e s units).1
    (summary.allPassed = true ↔
      ∀ before u after, units = before ++ u :: after →
        ∀ method, u.method = some method → Flawless e (run e s before).2 u method) ∧
    summary.total = units.length ∧
    summary.passed + summary.skipped ≤ summary.total ∧
    summary.passed + summary.failed + summary.skipped = summary.total := by
  refine ⟨?_, length_runFrom s 1 units, passed_add_skipped_le _,
    passed_add_failed_add_skipped _⟩
  rw [allPassed_ofResults_iff]
  constructor
  · intro h before u after hunits
    exact runUnit_passed_iff.mp (h _ (mem_runFrom_iff.mpr ⟨before, u, after, hunits, rfl⟩))
  · intro h r hr
    obtain ⟨before, u, after, hunits, rfl⟩ := mem_runFrom_iff.mp hr
    exact runUnit_passed_iff.mpr (h before u after hunits)

end Exchange

end HttpSuite
