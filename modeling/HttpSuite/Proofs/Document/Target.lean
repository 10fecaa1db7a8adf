/-
HttpSuite/Proofs/Document/Target.lean

Placeholders in the target of a request line.  A target is written in characters that are not blank
and in placeholders, and the names of these may hold blanks.  A request line is cut into words,
though, wherever its blanks are:

    GET http://h/{{id}}            the target is  http://h/{{id}}
    GET http://h/{{$guid}}?x       the target is  http://h/{{$guid}}?x
    GET http://h/{{$dotenv A}}     the target is  http://h/{{$dotenv

What is left of a target is its first word, and the placeholders that the overrides and the store do
not know stay in it as they are (`filled_firstWord`).

Main result: such a target is compiled to what is written exactly when none of its names holds a
blank, and to its first word in any case (`target_whole_iff`).
-/
import HttpSuite.Proofs.Document.Account
import HttpSuite.Proofs.Document.RoundTrip
import HttpSuite.Proofs.Variables.TwoPhase
import Mathlib.Data.List.TakeWhile

namespace HttpSuite

open Text (isBlank trim)

/-! ### Request lines -/

/-- A directive is no request line: its first word starts with an at sign. -/
theorem Line.requestLine?_of_directive {line : List Char} {d : Except DirectiveError Directive}
    (h : Directive.ofLine? (trim line) = some d) : Line.requestLine? (trim line) = none := by
  rw [Directive.ofLine?, Text.trimStart_eq_self (Text.trim_trim line)] at h
  split at h
  · rename_i rest hline
    obtain ⟨words, hwords⟩ := Text.words_cons (c := '@') (by decide) rest
    have hmethod : Method.ofText? (String.ofList (('@' :: rest).takeWhile (!isBlank ·))) = none :=
      Method.ofText?_eq_none (c := '@') (by decide)
        (by simp [List.takeWhile_cons_of_pos (p := (!isBlank ·)) (a := '@') (by decide)])
    rw [hline, Line.requestLine?, hwords]
    cases words with
    | nil => rfl
    | cons target words => simp only [hmethod, Option.map_none]
  · simp at h

namespace RequestZone

open LineRole (request?)

/-- A line is read as a request line wherever one is looked for, if it is one. -/
theorem request?_roleOf_awaitingMethod (line : List Char) :
    (roleOf .awaitingMethod line).1.request? = Line.requestLine? (trim line) := by
  simp only [roleOf]
  split
  · rename_i hblank
    rw [List.isEmpty_iff.mp hblank]
    rfl
  · split
    · rename_i hdirective
      exact (Line.requestLine?_of_directive hdirective).symm
    · split
      · rename_i hrequest
        exact hrequest.symm
      · rename_i hrequest
        exact hrequest.symm

/-- Of the lines up to the tests, the first request line is the one that is read as one. -/
theorem request?_roles {zone : List (List Char)} {line : List Char}
    (h : (zone.map trim).find? Line.isRequestLine = some line) :
    (roles .awaitingMethod zone).filterMap request? = (Line.requestLine? line).toList := by
  induction zone with
  | nil => simp at h
  | cons first zone ih =>
      have hfirst := request?_roleOf_awaitingMethod first
      have hroles : roles .awaitingMethod (first :: zone) =
          (roleOf .awaitingMethod first).1 :: roles (roleOf .awaitingMethod first).2 zone := rfl
      rw [List.map_cons] at h
      rw [hroles]
      rcases roleOf_awaitingMethod first with ⟨l, hrole⟩ | ⟨hmode, hrequest, -⟩
      · -- no other line is read as a request line behind this one
        have hrest : (roles (.headers true) zone).filterMap request? = [] :=
          List.filterMap_eq_nil_iff.mpr (request?_eq_none_of_mem_roles (by simp))
        rw [hrole] at hfirst
        have hline : Line.isRequestLine (trim first) = true := by
          rw [Line.isRequestLine, ← hfirst]
          rfl
        rw [List.find?_cons_of_pos hline] at h
        obtain rfl := Option.some.inj h
        rw [hrole, ← hfirst, List.filterMap_cons, hrest]
        rfl
      · have hline : ¬ Line.isRequestLine (trim first) = true := by
          rw [Line.isRequestLine, ← hfirst, hrequest]
          simp
        rw [List.find?_cons_of_neg hline] at h
        rw [List.filterMap_cons_none hrequest, hmode]
        exact ih h

end RequestZone

/-- The request line of a section without the blanks around it. -/
def Section.requestLine? (s : Section) : Option (List Char) :=
  (s.zones.1.map trim).find? Line.isRequestLine

/-! ### Targets -/

/-- A target as it is written, in characters that are not blank and in placeholders. -/
structure WrittenTarget where
  parts : List Piece
  ne_nil : parts ≠ []
  chars : ∀ c, .char c ∈ parts → isBlank c = false
  names : ∀ n, .hole n ∈ parts → Placeholder.IsName n

namespace WrittenTarget

variable (t : WrittenTarget)

/-- The text of a target. -/
def text : List Char := t.parts.flatMap placeholder.spell

/-- What stands in front of the first blank of a target. -/
def firstWord : List Char := t.text.takeWhile (!isBlank ·)

theorem exists_text_eq_cons : ∃ c s, t.text = c :: s ∧ isBlank c = false := by
  obtain ⟨piece, parts, hparts⟩ := List.exists_cons_of_ne_nil t.ne_nil
  have hpiece : piece ∈ t.parts := hparts ▸ List.mem_cons_self
  cases piece with
  | char c => exact ⟨c, _, by rw [text, hparts]; rfl, t.chars c hpiece⟩
  | hole n => exact ⟨'\x7b', _, by rw [text, hparts]; rfl, by decide⟩

/-- The blanks of a target are those of its names. -/
theorem not_isBlank_iff : (∀ c ∈ t.text, isBlank c = false) ↔
    ∀ n, .hole n ∈ t.parts → ∀ c ∈ n, isBlank c = false := by
  constructor
  · intro h n hn c hc
    refine h c (List.mem_flatMap.mpr ⟨.hole n, hn, ?_⟩)
    simp [HoleStyle.spell, HoleStyle.spellHole, hc]
  · intro h c hc
    obtain ⟨piece, hpiece, hspell⟩ := List.mem_flatMap.mp hc
    cases piece with
    | char a =>
        obtain rfl := List.mem_singleton.mp hspell
        exact t.chars c hpiece
    | hole n =>
        have hmem : c = '\x7b' ∨ c ∈ n ∨ c = '\x7d' := by
          simpa [HoleStyle.spell, Placeholder.spellHole_eq] using hspell
        rcases hmem with rfl | hn | rfl
        · decide
        · exact h n hpiece c hn
        · decide

/-- A target is its first word exactly when no name holds a blank. -/
theorem firstWord_eq_text_iff :
    t.firstWord = t.text ↔ ∀ n, .hole n ∈ t.parts → ∀ c ∈ n, isBlank c = false := by
  rw [← not_isBlank_iff, firstWord, List.takeWhile_eq_self_iff]
  simp

/-- A method and a target, with nothing or a blank behind them, are read as this method and the
first word of the target. -/
theorem requestLine?_eq (m : Method) {behind : List Char}
    (hbehind : ∀ c, behind.head? = some c → isBlank c = true) :
    Line.requestLine? (m.text.toList ++ ' ' :: (t.text ++ behind)) =
      some ⟨m, String.ofList t.firstWord⟩ := by
  have hmethod : ∀ c ∈ m.text.toList, isBlank c = false := fun c hc =>
    isKeyChar.isBlank_eq_false (isKeyChar.of_method m c hc)
  obtain ⟨c, s, htext, hc⟩ := t.exists_text_eq_cons
  obtain ⟨rest, hrest⟩ := Text.words_cons hc (s ++ behind)
  -- the first word ends within the target or with it
  have hword : (t.text ++ behind).takeWhile (!isBlank ·) = t.firstWord := by
    have hnone : behind.takeWhile (!isBlank ·) = [] := by
      cases behind with
      | nil => rfl
      | cons b behind => exact List.takeWhile_cons_of_neg (by simp [hbehind b rfl])
    rw [List.takeWhile_append, hnone, List.append_nil]
    split
    · rename_i hlength
      exact ((List.takeWhile_prefix _).eq_of_length hlength).symm
    · rfl
  rw [← List.cons_append, ← htext, hword] at hrest
  rw [Line.requestLine?, Text.words_append_cons (isKeyChar.text_ne_nil m) hmethod (by decide),
    hrest]
  simp only [String.ofList_toList, Method.ofText?_text, Option.map_some]

/-- The placeholders in the first word of a target are placeholders of the target, so the first word
stays as it is when nothing is known of these. -/
theorem filled_firstWord {f : String → Option String}
    (h : ∀ n, .hole n ∈ placeholder.pieces t.text → f (String.ofList n) = none) :
    Placeholder.filled f t.firstWord = t.firstWord := by
  refine Placeholder.filled_eq_self_of_put fun n hn => ?_
  have hname := Placeholder.isName_of_mem_pieces hn
  obtain ⟨a, b, hword⟩ := Placeholder.exists_eq_append_of_mem_pieces hn
  -- whatever stands behind the word, the placeholder is found where it was
  have hmem : .hole n ∈ placeholder.pieces t.text := by
    rw [← List.takeWhile_append_dropWhile (p := (!isBlank ·)) (l := t.text), ← firstWord, hword,
      List.append_assoc, List.append_assoc, Placeholder.pieces_append_hole hname]
    simp
  simp [Placeholder.put, h n hmem]

end WrittenTarget

/-! ### Units -/

namespace Compilation

open RequestZone.LineRole (request? query?)

variable (w : World)

theorem oneSection_of_method {c : Compilation} {s : Section} (hkind : s.kind = .request) {m : Method}
    (h : (compileSection w c s).1.method = some m) :
    oneSection w c s = (some (compileSection w c s).1, (compileSection w c s).2) := by
  rw [oneSection]
  split
  · rename_i hglobals
    rw [hkind] at hglobals
    simp at hglobals
  · simp [h]

/-- **Targets**: a section whose request line is a method and a target gives a unit with this method,
and the first word of the target is filled together with the queries behind it.  Where there are no
queries, and the overrides and the store know no placeholder of the target, the unit has this word
for its target, which is all that is written exactly when no name of a placeholder holds a blank. -/
theorem target_whole_iff (c : Compilation) {s : Section} (hkind : s.kind = .request) (m : Method)
    (t : WrittenTarget) {behind : List Char}
    (hbehind : ∀ c, behind.head? = some c → isBlank c = true)
    (hline : s.requestLine? = some (m.text.toList ++ ' ' :: (t.text ++ behind))) :
    ∃ u c', oneSection w c s = (some u, c') ∧ u.method = some m ∧
      u.target = c'.vars.substituteStatic
        (String.ofList t.firstWord ++ String.join (s.roles.filterMap query?)) ∧
      (s.roles.filterMap query? = [] →
        (∀ n, .hole n ∈ placeholder.pieces t.text → c'.vars.fixed? (String.ofList n) = none) →
          u.target = String.ofList t.firstWord ∧
          (u.target = String.ofList t.text ↔
            ∀ n, .hole n ∈ t.parts → ∀ c ∈ n, isBlank c = false)) := by
  have haccount := requestAccount w s c
  have hrequest : s.roles.filterMap request? = [⟨m, String.ofList t.firstWord⟩] := by
    rw [Section.roles, RequestZone.request?_roles hline, t.requestLine?_eq m hbehind]
    rfl
  have hmethod : (compileSection w c s).1.method = some m := by
    have hmethods := haccount.method
    rw [hrequest] at hmethods
    simpa using hmethods
  have htarget := haccount.target
  rw [hrequest, List.map_singleton, List.singleton_append, String.join_cons] at htarget
  refine ⟨_, _, oneSection_of_method w hkind hmethod, hmethod, htarget, fun hqueries hnames => ?_⟩
  have hword : (compileSection w c s).1.target = String.ofList t.firstWord := by
    refine htarget.trans (String.toList_inj.mp ?_)
    have hfilled := t.filled_firstWord hnames
    simpa [hqueries, VariableState.substituteStatic, Placeholder.toList_fill] using hfilled
  refine ⟨hword, ?_⟩
  rw [hword, String.ofList_inj]
  exact t.firstWord_eq_text_iff

/-- The placeholders of a target without arguments stay whole. -/
theorem target_whole_guid :
    let s : Section := ⟨0, .request,
      "### new\n  POST \x7b\x7bbase\x7d\x7d/\x7b\x7b$guid\x7d\x7d HTTP/1.1\nA: b".toList⟩
    let behind := " HTTP/1.1".toList
    ∃ t : WrittenTarget, t.text = "\x7b\x7bbase\x7d\x7d/\x7b\x7b$guid\x7d\x7d".toList ∧
      (s.kind = .request ∧ (∀ c, behind.head? = some c → isBlank c = true) ∧
        s.requestLine? = some (Method.post.text.toList ++ ' ' :: (t.text ++ behind))) ∧
      (oneSection {} ⟨{}, []⟩ s).1.map (fun u => (u.method, u.target)) =
        some (some .post, "\x7b\x7bbase\x7d\x7d/\x7b\x7b$guid\x7d\x7d") := by
  intro s behind
  let t : WrittenTarget :=
    { parts := [.hole "base".toList, .char '/', .hole "$guid".toList]
      ne_nil := by simp
      chars := by simp [isBlank]
      names := by
        have hbase : Placeholder.IsName "base".toList := ⟨by decide, by decide, by decide⟩
        have hguid : Placeholder.IsName "$guid".toList := ⟨by decide, by decide, by decide⟩
        simpa using ⟨hbase, hguid⟩ }
  have hbehind : ∀ c, behind.head? = some c → isBlank c = true := by
    rintro c ⟨⟩
    rfl
  have hline : s.requestLine? = some (Method.post.text.toList ++ ' ' :: (t.text ++ behind)) := by
    decide +kernel
  refine ⟨t, by decide, ⟨rfl, hbehind, hline⟩, ?_⟩
  have hempty : (oneSection {} ⟨{}, []⟩ s).2.vars.overrides.entries = [] ∧
      (oneSection {} ⟨{}, []⟩ s).2.vars.store.entries = [] := by
    decide +kernel
  obtain ⟨u, c', hunit, hmethod, -, htarget⟩ :=
    target_whole_iff {} ⟨{}, []⟩ rfl .post t hbehind hline
  simp only [hunit] at hempty
  have hwhole : u.target = String.ofList t.text := by
    refine ((htarget (by decide +kernel) fun n _ => ?_).2).mpr ?_
    · simp [VariableState.fixed?, Table.get?, hempty, Table.find?]
    · simp [t, isBlank]
  rw [hunit, Option.map_some, hmethod, hwhole]
  rfl

/-- The arguments of a placeholder are cut off the target, and no diagnostic says so.  On a line of
its own, as a query, the same placeholder stays whole. -/
theorem target_cut :
    let s : Section := ⟨0, .request, "GET http://h/?n=\x7b\x7b$randomInt 1 10\x7d\x7d".toList⟩
    let s' : Section := ⟨0, .request, "GET http://h/\n?n=\x7b\x7b$randomInt 1 10\x7d\x7d".toList⟩
    (oneSection {} ⟨{}, []⟩ s).1.map (·.target) = some "http://h/?n=\x7b\x7b$randomInt" ∧
      (oneSection {} ⟨{}, []⟩ s).2.diagnostics = [] ∧
      (oneSection {} ⟨{}, []⟩ s').1.map (·.target) =
        some "http://h/?n=\x7b\x7b$randomInt 1 10\x7d\x7d" := by
  decide +kernel

end Compilation

end HttpSuite
