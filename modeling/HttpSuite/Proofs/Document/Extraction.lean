/-
HttpSuite/Proofs/Document/Extraction.lean

Scripts are taken out of a text as they were put in.  The lines of a text are made up of passages:
a plain line, a script on one line, a script on several lines, a reference to a file with a script.

    plain            a line that does not start with a sign
    oneLine          > {% source %}
    block            > {%
                     lines of the source
                     the last of them, and behind it %}
    file             > path

A scan that starts at a passage takes the lines of that passage, gives its script or keeps its line,
and goes on behind it (`ofLines_print_append`), so that no line is taken twice and none is lost.

Main result: the scan of a text made up of passages gives their scripts and plain lines in order,
and finds no script that is not closed (`ofText_passages`).
-/
import HttpSuite.Proofs.Document.Roles

namespace HttpSuite.ScriptScan

open Text (isBlank trim trimStart trimEnd unlines)

/-! ### Passages -/

/-- The sign in front of the scripts of a phase. -/
def signOf : ScriptPhase → Char
  | .preRequest => '<'
  | .postResponse => '>'

/-- A text without the ends of lines. -/
def WithinLine (s : List Char) : Prop := ∀ c ∈ s, c ≠ '\n' ∧ c ≠ '\r'

instance (s : List Char) : Decidable (WithinLine s) :=
  List.decidableBAll (fun c => c ≠ '\n' ∧ c ≠ '\r') s

/-- A part of a text: a line that is kept, or a script. -/
inductive Passage where
  | plain (line : List Char) (within : WithinLine line)
    (unsigned : (trim line).head? ≠ some '<' ∧ (trim line).head? ≠ some '>')
  | oneLine (phase : ScriptPhase) (source : List Char) (within : WithinLine source)
  /-- A script on several lines, the last of which has the mark that closes it. -/
  | block (phase : ScriptPhase) (body : List (List Char)) (last : List Char)
    (within : ∀ line ∈ body, WithinLine line) (lastWithin : WithinLine last)
    (unclosed : ∀ line ∈ body, ¬ closeMark <:+ trimEnd line)
  | file (phase : ScriptPhase) (path : List Char) (ne_nil : path ≠ [])
    (word : ∀ c ∈ path, isBlank c = false) (unopened : ¬ openMark <+: path)
    (script : phase = .preRequest → scriptTail <:+ path)

namespace Passage

/-- The lines of a passage. -/
def print : Passage → List (List Char)
  | plain line _ _ => [line]
  | oneLine phase source _ =>
    [signOf phase :: ' ' :: (openMark ++ ' ' :: (source ++ ' ' :: closeMark))]
  | block phase body last _ _ _ =>
    (signOf phase :: ' ' :: openMark) :: (body ++ [last ++ closeMark])
  | file phase path _ _ _ _ => [signOf phase :: ' ' :: path]

/-- The script of a passage: a source without the blanks around it, or a path. -/
def script? : Passage → Option ScriptBlock
  | plain _ _ _ => none
  | oneLine phase source _ => some ⟨phase, .inline (String.ofList (trim source))⟩
  | block phase body last _ _ _ =>
    some ⟨phase, .inline (String.ofList (trim (unlines (body ++ [last]))))⟩
  | file phase path _ _ _ _ => some ⟨phase, .file (String.ofList path)⟩

/-- The line of a passage that is no script. -/
def kept? : Passage → Option (List Char)
  | plain line _ _ => some line
  | _ => none

end Passage

/-! ### Signs and marks -/

theorem phaseOf?_signOf (phase : ScriptPhase) : phaseOf? (signOf phase) = some phase := by
  cases phase <;> rfl

theorem isBlank_signOf (phase : ScriptPhase) : isBlank (signOf phase) = false := by
  cases phase <;> decide

/-- A line that starts with a sign is trimmed at its end alone. -/
theorem trim_signed (phase : ScriptPhase) (s : List Char) :
    trim (signOf phase :: s) = signOf phase :: trimEnd s :=
  Text.trim_cons_of_not_blank (isBlank_signOf phase) s

theorem opening?_signed (phase : ScriptPhase) (first : List Char) :
    opening? (signOf phase :: ' ' :: (openMark ++ first)) = some (phase, first) := by
  have hstart : trimStart (' ' :: (openMark ++ first)) = openMark ++ first := rfl
  have hmark : Text.stripStart? openMark (openMark ++ first) = some first :=
    Text.stripStart?_eq_some.mpr rfl
  simp only [opening?, phaseOf?_signOf, hstart, hmark, Option.map_some]

theorem trimEnd_append_closeMark (s : List Char) : trimEnd (s ++ closeMark) = s ++ closeMark := by
  rw [show closeMark = ['%'] ++ ['\x7d'] from rfl, ← List.append_assoc]
  exact Text.trimEnd_append_of_not_blank (by decide)

/-- What stands in front of a mark at the end of a line is found. -/
theorem beforeClose?_append (s : List Char) : beforeClose? (s ++ closeMark) = some s := by
  rw [beforeClose?, trimEnd_append_closeMark]
  exact Text.stripEnd?_eq_some.mpr rfl

theorem beforeClose?_eq_none {line : List Char} (h : ¬ closeMark <:+ trimEnd line) :
    beforeClose? line = none := by
  refine Option.eq_none_iff_forall_ne_some.mpr fun s hs => h ⟨s, ?_⟩
  exact (Text.stripEnd?_eq_some.mp hs).symm

/-! ### One passage -/

theorem phaseOf?_of_unsigned {s rest : List Char} {sign : Char}
    (h : s.head? ≠ some '<' ∧ s.head? ≠ some '>') (hs : s = sign :: rest) :
    phaseOf? sign = none := by
  have hsign : sign ≠ '<' ∧ sign ≠ '>' := by simpa [hs] using h
  simp [phaseOf?, hsign]

/-- A line without a sign in front is kept. -/
theorem ofLines_cons_of_unsigned (index : Nat) {line : List Char} (rest : List (List Char))
    (h : (trim line).head? ≠ some '<' ∧ (trim line).head? ≠ some '>') :
    ofLines index (line :: rest) = (ofLines (index + 1) rest).keep line := by
  have hopening : opening? (trim line) = none := by
    rcases htrim : trim line with - | ⟨sign, s⟩
    · rfl
    · simp only [opening?, phaseOf?_of_unsigned h htrim]
  have hfile : scriptFile? (trim line) = none := by
    rcases htrim : trim line with - | ⟨sign, s⟩
    · rfl
    · simp only [scriptFile?, fileReference?, phaseOf?_of_unsigned h htrim, Option.filter_none]
  rw [ofLines, hopening, hfile]

/-- Lines without a sign in front are all kept. -/
theorem ofLines_eq_of_unsigned (index : Nat) {lines : List (List Char)}
    (h : ∀ line ∈ lines, (trim line).head? ≠ some '<' ∧ (trim line).head? ≠ some '>') :
    ofLines index lines = ⟨[], lines, []⟩ := by
  induction lines generalizing index with
  | nil => rw [ofLines]
  | cons line lines ih =>
      rw [ofLines_cons_of_unsigned index lines (h line List.mem_cons_self),
        ih (index + 1) fun l hl => h l (List.mem_cons_of_mem _ hl)]
      rfl

theorem isScript_oneLine (phase : ScriptPhase) (source : List Char) :
    IsScript [signOf phase :: ' ' :: (openMark ++ ' ' :: (source ++ ' ' :: closeMark))]
      (inlineBlock phase source) := by
  have hline : ' ' :: (source ++ ' ' :: closeMark) = (' ' :: (source ++ [' '])) ++ closeMark := by
    simp
  have htrim : trim (signOf phase :: ' ' :: (openMark ++ ' ' :: (source ++ ' ' :: closeMark))) =
      signOf phase :: ' ' :: (openMark ++ ' ' :: (source ++ ' ' :: closeMark)) := by
    rw [trim_signed, hline, ← List.append_assoc, ← List.cons_append, trimEnd_append_closeMark]
  -- the blanks at the marks do not count
  have hsource : inlineBlock phase (' ' :: (source ++ [' '])) = inlineBlock phase source := by
    rw [inlineBlock, Text.trim_cons_of_blank (by decide), Text.trim_concat_of_blank (by decide),
      inlineBlock]
  rw [← hsource]
  refine .oneLine (by rw [htrim, opening?_signed]) ?_
  rw [hline, beforeClose?_append]

theorem isScript_block (phase : ScriptPhase) {body : List (List Char)}
    (h : ∀ line ∈ body, ¬ closeMark <:+ trimEnd line) (last : List Char) :
    IsScript ((signOf phase :: ' ' :: openMark) :: (body ++ [last ++ closeMark]))
      (inlineBlock phase (unlines (body ++ [last]))) := by
  have htrim : trim (signOf phase :: ' ' :: openMark) = signOf phase :: ' ' :: openMark := by
    cases phase <;> decide
  have hopening := opening?_signed phase []
  rw [List.append_nil, ← htrim] at hopening
  -- nothing stands behind the mark that opens the script, so its text starts on the next line
  have hclose : beforeClose? [] = none := rfl
  have hjoin : joinBody [] body last = unlines (body ++ [last]) := rfl
  rw [← hjoin]
  exact .block hopening hclose (fun line hline => beforeClose?_eq_none (h line hline))
    (beforeClose?_append last)

theorem isScript_file {phase : ScriptPhase} {path : List Char}
    (ne_nil : path ≠ []) (word : ∀ c ∈ path, isBlank c = false) (unopened : ¬ openMark <+: path)
    (script : phase = .preRequest → scriptTail <:+ path) :
    IsScript [signOf phase :: ' ' :: path] ⟨phase, .file (String.ofList path)⟩ := by
  have hpath : trim path = path := Text.trim_eq_self_iff.mpr
    ⟨fun c hc => word c (List.mem_of_head? hc), fun c hc => word c (List.mem_of_getLast? hc)⟩
  have htrim : trim (signOf phase :: ' ' :: path) = signOf phase :: ' ' :: path :=
    Text.trim_append_cons (s := [signOf phase]) rfl (isBlank_signOf phase) hpath ne_nil
  have hstart : trimStart (' ' :: path) = path := by
    rw [show trimStart (' ' :: path) = trimStart path from rfl, Text.trimStart_eq_self hpath]
  have hopening : opening? (signOf phase :: ' ' :: path) = none := by
    have hmark : Text.stripStart? openMark path = none := by
      refine Option.eq_none_iff_forall_ne_some.mpr fun s hs => unopened ⟨s, ?_⟩
      exact (Text.stripStart?_eq_some.mp hs).symm
    simp only [opening?, phaseOf?_signOf, hstart, hmark, Option.map_none]
  have hfile : scriptFile? (signOf phase :: ' ' :: path) = some (phase, path) := by
    have hword : path.all (!isBlank ·) = true := by
      simpa using word
    have hempty : path.isEmpty = false := List.isEmpty_eq_false_iff.mpr ne_nil
    have htail : (decide (phase = .postResponse) || Text.endsWith scriptTail path) = true := by
      cases phase with
      | postResponse => rfl
      | preRequest =>
          obtain ⟨front, hfront⟩ := script rfl
          have hsome : Text.stripEnd? scriptTail path = some front :=
            Text.stripEnd?_eq_some.mpr hfront.symm
          simp [Text.endsWith, hsome]
    simp [scriptFile?, fileReference?, phaseOf?_signOf, hstart, hword, hempty, htail]
  exact .file (by rw [htrim, hopening]) (by rw [htrim, hfile])

/-! ### Texts of passages -/

/-- **One passage**: a scan takes the lines of a passage and goes on behind them. -/
theorem ofLines_print_append (index : Nat) (p : Passage) (rest : List (List Char)) :
    ∃ next, ofLines index (p.print ++ rest) =
      { ofLines next rest with
        blocks := p.script?.toList ++ (ofLines next rest).blocks
        kept := p.kept?.toList ++ (ofLines next rest).kept } := by
  cases p with
  | plain line _ unsigned => exact ⟨_, ofLines_cons_of_unsigned index rest unsigned⟩
  | oneLine phase source _ => exact ⟨_, ofLines_script (isScript_oneLine phase source) index rest⟩
  | block phase body last _ _ unclosed =>
      exact ⟨_, ofLines_script (isScript_block phase unclosed last) index rest⟩
  | file phase path ne_nil word unopened script =>
      exact ⟨_, ofLines_script (isScript_file ne_nil word unopened script) index rest⟩

/-- The scan of the lines of passages gives what each of them holds. -/
theorem ofLines_passages (index : Nat) (ps : List Passage) :
    ofLines index (ps.flatMap Passage.print) =
      ⟨ps.filterMap Passage.script?, ps.filterMap Passage.kept?, []⟩ := by
  induction ps generalizing index with
  | nil => rw [List.flatMap_nil, ofLines]; rfl
  | cons p ps ih =>
      obtain ⟨next, hscan⟩ := ofLines_print_append index p (ps.flatMap Passage.print)
      rw [List.flatMap_cons, hscan, ih next]
      cases hscript : p.script? <;> cases hkept : p.kept? <;> simp [hscript, hkept]

theorem withinLine_cons {c : Char} {s : List Char} :
    WithinLine (c :: s) ↔ (c ≠ '\n' ∧ c ≠ '\r') ∧ WithinLine s := by
  simp [WithinLine]

theorem withinLine_append {s t : List Char} :
    WithinLine (s ++ t) ↔ WithinLine s ∧ WithinLine t :=
  List.forall_mem_append

/-- No line of a passage holds the end of a line. -/
theorem Passage.print_within (p : Passage) : ∀ line ∈ p.print, WithinLine line := by
  have hsign : ∀ phase, signOf phase ≠ '\n' ∧ signOf phase ≠ '\r' := by
    intro phase
    cases phase <;> decide
  have hopen : WithinLine openMark := by decide
  have hclose : WithinLine closeMark := by decide
  intro line hline
  cases p with
  | plain line' within _ =>
      obtain rfl : line = line' := by simpa [print] using hline
      exact within
  | oneLine phase source within =>
      obtain rfl := List.mem_singleton.mp hline
      simp [withinLine_cons, withinLine_append, hsign, hopen, hclose, within]
  | block phase body last within lastWithin _ =>
      rcases List.mem_cons.mp hline with rfl | hline
      · simp [withinLine_cons, hsign, hopen]
      · rcases List.mem_append.mp hline with hline | hline
        · exact within line hline
        · obtain rfl := List.mem_singleton.mp hline
          exact withinLine_append.mpr ⟨lastWithin, hclose⟩
  | file phase path _ word _ _ =>
      obtain rfl := List.mem_singleton.mp hline
      have hpath : WithinLine path := by
        intro c hc
        constructor <;> rintro rfl <;> exact absurd (word _ hc) (by decide)
      simp [withinLine_cons, hsign, hpath]

/-- **Extraction**: from a text made up of passages, the last line of which is not empty, the scan
gives the scripts of the passages in order, keeps their plain lines and finds nothing that is not
closed. -/
theorem ofText_passages (ps : List Passage)
    (last : (ps.flatMap Passage.print).getLast? ≠ some []) :
    let scan := ofText (unlines (ps.flatMap Passage.print))
    scan.blocks = ps.filterMap Passage.script? ∧
      scan.remaining = unlines (ps.filterMap Passage.kept?) ∧ scan.unterminated = [] := by
  have hwithin : ∀ line ∈ ps.flatMap Passage.print, WithinLine line := by
    intro line hline
    obtain ⟨p, -, hp⟩ := List.mem_flatMap.mp hline
    exact p.print_within line hp
  have hlines : Text.lines (unlines (ps.flatMap Passage.print)) = ps.flatMap Passage.print :=
    Text.lines_unlines (fun line hline hfeed => (hwithin line hline _ hfeed).1 rfl)
      (fun line hline hreturn => (hwithin line hline _ hreturn).2 rfl) last
  intro scan
  have hscan : scan = ⟨ps.filterMap Passage.script?, ps.filterMap Passage.kept?, []⟩ := by
    rw [show scan = ofLines 0 _ from rfl, hlines, ofLines_passages]
  simp only [hscan, remaining, and_self]

/-- A script on one line, a plain line, and a script on two lines that starts with blanks. -/
theorem ofText_passages_three :
    let ps : List Passage := [.oneLine .postResponse "first();".toList (by decide),
      .plain "a < b".toList (by decide) (by decide),
      .block .preRequest ["  pre(".toList] "); ".toList (by decide) (by decide) (by decide)]
    let scan := ofText "> \x7b% first(); %\x7d\na < b\n< \x7b%\n  pre(\n); %\x7d".toList
    (ps.flatMap Passage.print).getLast? ≠ some [] ∧
      scan.blocks = [⟨.postResponse, .inline "first();"⟩, ⟨.preRequest, .inline "pre(\n);"⟩] ∧
      scan.remaining = "a < b".toList ∧ scan.unterminated = [] := by
  intro ps scan
  have hlast : (ps.flatMap Passage.print).getLast? ≠ some [] := by decide
  exact ⟨hlast, ofText_passages ps hlast⟩

end HttpSuite.ScriptScan
