/-
HttpSuite/Proofs/Exchange/Merging.lean

The variables of a run and those of its scripts.  A script before a request does not see the
variables themselves.  It gets a snapshot of them, in which the overrides lie over the store, and
sets what it likes in it; what it has set is merged into the store when it has succeeded:

    snapshot = store with the overrides over it
    seen     = snapshot with what is set over it
    store'   = store with what is set over it

The overrides are not merged into, so that the next snapshot shows what was set under them only.

Main result: scripts see the variables that placeholders are filled from, and the other way round
(`variables_agree`).
-/
import HttpSuite.Proofs.Script.Variables
import HttpSuite.Proofs.Text.ByteOrder

namespace HttpSuite

/-! ### Snapshots -/

theorem Table.mem_entries_iff {α : Type} {t : Table α} {k : String} {v : α} :
    (k, v) ∈ t.entries ↔ t.get? k = some v := by
  constructor
  · have hlist : ∀ l : List (String × α), l.Pairwise (fun a b => a.1 < b.1) → (k, v) ∈ l →
        find? k l = some v := by
      intro l hl hmem
      induction l with
      | nil => cases hmem
      | cons e l ih =>
          obtain ⟨hfirst, hrest⟩ := List.pairwise_cons.mp hl
          rcases List.mem_cons.mp hmem with rfl | hmem
          · rw [find?, if_pos rfl]
          · -- the names behind the first one are others
            have hne : k ≠ e.1 := by
              rintro rfl
              have hlt : e.1 < e.1 := hfirst (e.1, v) hmem
              exact String.lt_irrefl _ hlt
            rw [find?, if_neg hne, ih hrest hmem]
    exact hlist t.entries t.ordered
  · exact Table.mem_of_find?

namespace VariableState

variable {st : VariableState} {k v : String}

/-- A snapshot has the texts of the overrides and, failing that, of the store. -/
theorem get?_snapshot (st : VariableState) (k : String) : st.snapshot.get? k = st.fixed? k := by
  rw [snapshot, Table.get?_insertAll, Table.find?_reverse_entries]
  rfl

theorem lookup_of_fixed? (h : st.fixed? k = some v) (w : World) :
    (st.lookup w k).1 = some v := by
  rw [lookup, h]
  simp [lookupWith, h]

/-- `Lists st entries`: the entries are those of all names of the overrides and the store, in
ascending order of the bytes of the names, with the texts that the names stand for. -/
structure Lists (st : VariableState) (entries : List (String × String)) : Prop where
  ascending : entries.Pairwise fun a b => Text.bytes a.1 < Text.bytes b.1
  names : ∀ k, (∃ v, (k, v) ∈ entries) ↔
    (∃ v, (k, v) ∈ st.overrides.entries) ∨ ∃ v, (k, v) ∈ st.store.entries
  texts : ∀ k v, (k, v) ∈ entries → ∀ w, (st.lookup w k).1 = some v

theorem lists_snapshot (st : VariableState) : st.Lists st.snapshot.entries := by
  refine ⟨st.snapshot.ordered.imp Text.lt_iff_bytes_lt.mp, fun k => ?_, fun k v hmem w => ?_⟩
  · simp only [Table.mem_entries_iff, get?_snapshot, fixed?, ← Option.isSome_iff_exists]
    rw [Option.isSome_or, Bool.or_eq_true]
  · rw [Table.mem_entries_iff, get?_snapshot] at hmem
    exact lookup_of_fixed? hmem w

end VariableState

/-! ### What a script writes -/

namespace Script

/-- A script that succeeds has been read, and what it has set is what it wrote. -/
theorem writes_of_success {l : Limits} {source : String} {globals vars : Table String}
    (h : (run l source globals (.preRequest vars)).1.success = true) :
    ∃ body, parse source = .ok body ∧ ∀ k,
      (run l source globals (.preRequest vars)).1.writes.get? k =
        lastSet? k (((Surface.preRequest vars).first body globals).asked l.turns) := by
  cases hparse : parse source with
  | error message =>
      rw [run, play, hparse] at h
      cases h
  | ok body =>
      refine ⟨body, rfl, fun k => ?_⟩
      obtain ⟨-, hleft⟩ := finished_lastScene l globals (.preRequest vars) hparse
      have hwrites : (run l source globals (.preRequest vars)).1.writes =
          (play l source globals (.preRequest vars)).2.writes := by
        rw [run, settle] at h ⊢
        exact if_pos h
      rw [hwrites, ← hleft]
      exact (Scene.sees_last vars globals body l.turns).written k

end Script

namespace Exchange

variable {σ τ : Type} {e : Setting σ τ} {s : Session σ τ} {reference : ScriptReference}

/-- What a script has written is seen in the next snapshot, unless it is overridden. -/
theorem get?_snapshot_runPre {result : Script.Result} {globals : Table String} {sandbox : τ}
    (h : runReference e reference s.globals (.preRequest s.vars.snapshot) s.sandbox =
      (result, globals, sandbox))
    (k : String) : (runPre e s reference).2.vars.snapshot.get? k =
      (s.vars.overrides.get? k).or ((result.writes.get? k).or (s.vars.snapshot.get? k)) := by
  rw [runPre_eq h, VariableState.get?_snapshot, VariableState.get?_snapshot]
  show (s.vars.overrides.get? k).or ((s.vars.store.insertAll result.writes.entries).get? k) =
    (s.vars.overrides.get? k).or ((result.writes.get? k).or
      ((s.vars.overrides.get? k).or (s.vars.store.get? k)))
  rw [Table.get?_insertAll, Table.find?_reverse_entries]
  cases s.vars.overrides.get? k with
  | none => rfl
  | some v => rfl

/-- A runner that runs scripts in the engine, under limits that may differ from time to time. -/
def Runner.IsEngine (runner : Runner τ) (l : τ → Script.Limits) : Prop :=
  ∀ source globals surface t, ∃ t', runner.run source globals surface t =
    ((Script.run (l t) source globals surface).1, (Script.run (l t) source globals surface).2, t')

/-- **Scripts see the variables that placeholders are filled from.**  The snapshot that a script
before a request is run on lists all variables with the texts that they stand for; at each of its
turns the script sees them as it has set them; and when it has succeeded, the next snapshot shows for
each name the override, or what the script has set last, or what the snapshot before showed. -/
theorem variables_agree (e : Setting σ τ) (l : τ → Script.Limits)
    (hscripts : e.runScript.IsEngine l) (s : Session σ τ) :
    s.vars.Lists s.vars.snapshot.entries ∧
      (∀ body turns, let start := (Script.Surface.preRequest s.vars.snapshot).first body s.globals
        (start.last turns).Sees s.vars.snapshot (start.asked turns)) ∧
      ∀ reference source, reference.source e.world.files e.directory = .ok source →
        (runPre e s reference).1.result.success = true →
          ∃ body, Script.parse source = .ok body ∧ ∀ k,
            let start := (Script.Surface.preRequest s.vars.snapshot).first body s.globals
            (runPre e s reference).2.vars.snapshot.get? k =
              (s.vars.overrides.get? k).or
                ((Script.lastSet? k (start.asked (l s.sandbox).turns)).or
                  (s.vars.snapshot.get? k)) := by
  refine ⟨s.vars.lists_snapshot, fun body turns => ?_, fun reference source hsource hsuccess => ?_⟩
  · exact Script.Scene.sees_last s.vars.snapshot s.globals body turns
  · have hreference :
        runReference e reference s.globals (.preRequest s.vars.snapshot) s.sandbox =
          e.runScript.run source s.globals (.preRequest s.vars.snapshot) s.sandbox := by
      rw [runReference, hsource]
    obtain ⟨sandbox, hrun⟩ := hscripts source s.globals (.preRequest s.vars.snapshot) s.sandbox
    rw [← hreference] at hrun
    rw [runPre_eq hrun] at hsuccess
    obtain ⟨body, hparse, hwrites⟩ := Script.writes_of_success hsuccess
    refine ⟨body, hparse, fun k => ?_⟩
    intro start
    rw [get?_snapshot_runPre hrun, ← hwrites k]

/-- A script sets two variables, one of which is overridden. -/
theorem variables_agree_override :
    let source := "request.variables.set('a', 'x'); request.variables.set('b', 'y');"
    let e : Setting Unit :=
      { world := {}, runScript := Script.run {}, send := fun _ _ => (.error .emptyTarget, ()) }
    let s : Session Unit :=
      { vars := { overrides := .ofList [("b", "o")], store := .ofList [("a", "1"), ("c", "2")] }
        transport := () }
    (runPre e s (.inline source)).1.result.success = true ∧
      (runPre e s (.inline source)).2.vars.snapshot.entries = [("a", "x"), ("b", "o"), ("c", "2")] ∧
      ∃ body, Script.parse source = .ok body ∧ ∀ k,
        let start := (Script.Surface.preRequest s.vars.snapshot).first body s.globals
        (runPre e s (.inline source)).2.vars.snapshot.get? k = (s.vars.overrides.get? k).or
          ((Script.lastSet? k (start.asked (Script.Limits.turns {}))).or
            (s.vars.snapshot.get? k)) := by
  intro source e s
  have hsuccess : (runPre e s (.inline source)).1.result.success = true := by decide +kernel
  refine ⟨hsuccess, by decide +kernel, ?_⟩
  have hengine : e.runScript.IsEngine fun _ => {} := fun _ _ _ _ => ⟨(), rfl⟩
  exact (variables_agree e _ hengine s).2.2 (.inline source) source rfl hsuccess

end Exchange

end HttpSuite
