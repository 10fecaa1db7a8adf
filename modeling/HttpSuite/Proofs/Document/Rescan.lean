/-
HttpSuite/Proofs/Document/Rescan.lean

Scanning what a scan has left.  A scan takes a script wherever one starts, and a line with a sign
that opens a script is kept only if no line behind it closes one.  So of the lines that are kept,
none starts a script any more: there are fewer lines behind each of them than before, and none that
closes a script has come up.

    ofLines index (script ++ rest)  =  (ofLines _ rest).addBlock _        where a script starts
    ofLines index (line :: rest)    =  (ofLines _ rest).keep line         where none does

These two equations are all that is used of the scan, by an induction along them (`scan_induction`).
They also tell which lines are kept (`IsKept`) without the scan, and with that which of them are
reported as never closed (`mem_unterminated_iff`).

Main result: in what a scan has left another scan finds no script and as many that are never closed,
and it keeps the lines as they are, up to the ends of lines (`ofText_remaining`).
-/
import HttpSuite.Proofs.Document.Extraction
import HttpSuite.Proofs.Document.Roles

namespace HttpSuite

namespace ScriptScan

open Text (dropReturn linesOfPieces trim trimEnd isBlankText)

/-! ### Where scripts start -/

/-- Whether a line has a sign and the mark that opens a script. -/
def opens (line : List Char) : Bool := (opening? (trim line)).isSome

/-- A script starts at the first one of the lines. -/
def StartsScript (lines : List (List Char)) : Prop :=
  ∃ script block rest, IsScript script block ∧ lines = script ++ rest

theorem beforeClose?_eq_none_iff {line : List Char} :
    beforeClose? line = none ↔ ¬ closeMark <:+ trimEnd line := by
  refine ⟨?_, beforeClose?_eq_none⟩
  rintro hnone ⟨front, hfront⟩
  have hsome : beforeClose? line = some front := Text.stripEnd?_eq_some.mpr hfront.symm
  rw [hnone] at hsome
  simp at hsome

/-- Of lines with one that closes a script, the first that does so is found. -/
theorem exists_splitAtClose? {lines : List (List Char)}
    (h : ∃ l ∈ lines, closeMark <:+ trimEnd l) :
    ∃ body last after, splitAtClose? lines = some (body, last, after) := by
  induction lines with
  | nil => simp at h
  | cons line rest ih =>
      cases hline : beforeClose? line with
      | some last => exact ⟨[], last, rest, by simp only [splitAtClose?, hline]⟩
      | none =>
          obtain ⟨l, hl, hclose⟩ := h
          have hrest : l ∈ rest := by
            rcases List.mem_cons.mp hl with rfl | hl
            · exact absurd hclose (beforeClose?_eq_none_iff.mp hline)
            · exact hl
          obtain ⟨body, last, after, hsplit⟩ := ih ⟨l, hrest, hclose⟩
          exact ⟨line :: body, last, after, by simp only [splitAtClose?, hline, hsplit,
            Option.map_some]⟩

/-- A script starts at a line that opens one if the line or one behind it closes it, and at a line
with a path. -/
theorem startsScript_cons_iff {line : List Char} {rest : List (List Char)} :
    StartsScript (line :: rest) ↔
      (∃ phase first, opening? (trim line) = some (phase, first) ∧
        (closeMark <:+ trimEnd first ∨ ∃ l ∈ rest, closeMark <:+ trimEnd l)) ∨
      (opening? (trim line) = none ∧ (scriptFile? (trim line)).isSome = true) := by
  constructor
  · rintro ⟨script, block, after, hscript, hlines⟩
    cases hscript with
    | @oneLine line' phase first source hopen hclose =>
        obtain ⟨rfl, -⟩ := List.cons.inj hlines
        have hcloses : closeMark <:+ trimEnd first := not_not.mp fun h => by
          rw [beforeClose?_eq_none_iff.mpr h] at hclose
          simp at hclose
        exact .inl ⟨phase, first, hopen, .inl hcloses⟩
    | @block line' phase first body close last hopen _ _ hlast =>
        obtain ⟨rfl, rfl⟩ := List.cons.inj hlines
        have hcloses : closeMark <:+ trimEnd close := not_not.mp fun h => by
          rw [beforeClose?_eq_none_iff.mpr h] at hlast
          simp at hlast
        exact .inl ⟨phase, first, hopen, .inr ⟨close, by simp, hcloses⟩⟩
    | file hopen hfile =>
        obtain ⟨rfl, -⟩ := List.cons.inj hlines
        exact .inr ⟨hopen, by rw [hfile]; rfl⟩
  · rintro (⟨phase, first, hopen, hcloses⟩ | ⟨hopen, hfile⟩)
    · -- the line itself is tried first, and only then those behind it
      cases hfirst : beforeClose? first with
      | some source => exact ⟨[line], _, rest, .oneLine hopen hfirst, rfl⟩
      | none =>
          have hrest := hcloses.resolve_left (beforeClose?_eq_none_iff.mp hfirst)
          obtain ⟨body, last, after, hsplit⟩ := exists_splitAtClose? hrest
          obtain ⟨close, rfl, hlast, hbody⟩ := eq_append_of_splitAtClose? hsplit
          exact ⟨_, _, after, .block hopen hfirst hbody hlast, by simp⟩
    · obtain ⟨⟨phase, path⟩, hpath⟩ := Option.isSome_iff_exists.mp hfile
      exact ⟨[line], _, rest, .file hopen hpath, rfl⟩

theorem IsScript.length_pos {script : List (List Char)} {block : ScriptBlock}
    (h : IsScript script block) : 0 < script.length := by
  cases h <;> simp

/-- Lines start with one script at most. -/
theorem IsScript.append_inj {script script' rest rest' : List (List Char)}
    {block block' : ScriptBlock} (h : IsScript script block) (h' : IsScript script' block')
    (heq : script ++ rest = script' ++ rest') : script = script' ∧ rest = rest' := by
  cases h <;> cases h'
  case oneLine.oneLine => simpa using heq
  case file.file => simpa using heq
  case block.block line phase first body close last _ _ hbody hlast
      line' phase' first' body' close' last' _ _ hbody' hlast' =>
    -- both go up to the first line that closes a script
    obtain ⟨rfl, hlines⟩ : line = line' ∧ body ++ close :: rest = body' ++ close' :: rest' := by
      simpa using heq
    have hsplit := splitAtClose?_append hbody hlast rest
    rw [hlines, splitAtClose?_append hbody' hlast'] at hsplit
    obtain ⟨rfl, rfl, rfl⟩ := by simpa using hsplit
    obtain ⟨rfl, -⟩ := List.cons.inj (List.append_cancel_left hlines)
    exact ⟨rfl, rfl⟩
  -- scripts of two kinds do not start with the same line
  all_goals
    obtain ⟨rfl, -⟩ := List.cons.inj heq
    simp_all

/-! ### The scan, one step at a time -/

/-- Lines are none, or a script and lines behind it, or a line where no script starts and lines
behind it. -/
@[elab_as_elim]
theorem scan_induction {motive : List (List Char) → Prop} (nil : motive [])
    (script : ∀ {script block rest}, IsScript script block → motive rest → motive (script ++ rest))
    (kept : ∀ {line rest}, ¬ StartsScript (line :: rest) → motive rest → motive (line :: rest))
    (lines : List (List Char)) : motive lines := by
  induction hlength : lines.length using Nat.strongRecOn generalizing lines with
  | ind length ih =>
      subst hlength
      by_cases hstart : StartsScript lines
      · obtain ⟨taken, block, rest, htaken, rfl⟩ := hstart
        have hpos := htaken.length_pos
        exact script htaken (ih rest.length (by rw [List.length_append]; omega) rest rfl)
      · cases lines with
        | nil => exact nil
        | cons line rest => exact kept hstart (ih rest.length (by simp) rest rfl)

/-- **A line** where no script starts is kept. -/
theorem ofLines_cons {line : List Char} {rest : List (List Char)}
    (h : ¬ StartsScript (line :: rest)) (index : Nat) :
    ofLines index (line :: rest) =
      if opens line then (ofLines (index + 1) rest).keepOpen index line
      else (ofLines (index + 1) rest).keep line := by
  obtain ⟨hscript, hpath⟩ := not_or.mp (startsScript_cons_iff.not.mp h)
  cases hopen : opening? (trim line) with
  | none =>
      have hfile : scriptFile? (trim line) = none := by
        simpa [hopen] using hpath
      have hno : opens line = false := by rw [opens, hopen]; rfl
      rw [ofLines, hopen, hfile, hno]
      rfl
  | some opened =>
      obtain ⟨phase, first⟩ := opened
      have hfirst : beforeClose? first = none := beforeClose?_eq_none fun hclose =>
        hscript ⟨phase, first, hopen, .inl hclose⟩
      have hyes : opens line = true := by rw [opens, hopen]; rfl
      rw [ofLines, hopen, hyes]
      simp only [hfirst]
      split
      · -- a line behind closes the script, so that one starts here
        rename_i body last after hsplit
        obtain ⟨close, rfl, hlast, hbody⟩ := eq_append_of_splitAtClose? hsplit
        exact absurd ⟨_, _, after, .block hopen hfirst hbody hlast, by simp⟩ h
      · rfl

theorem kept_ofLines_cons {line : List Char} {rest : List (List Char)}
    (h : ¬ StartsScript (line :: rest)) (index : Nat) :
    (ofLines index (line :: rest)).kept = line :: (ofLines (index + 1) rest).kept := by
  rw [ofLines_cons h]
  split <;> rfl

/-! ### Lines that are kept -/

/-- `IsKept lines n`: from the first line on, scripts are taken where they start and the other lines
are kept, the line with the number `n` among them. -/
inductive IsKept : List (List Char) → Nat → Prop
  | here {line rest} : ¬ StartsScript (line :: rest) → IsKept (line :: rest) 0
  | behindLine {line rest n} :
      ¬ StartsScript (line :: rest) → IsKept rest n → IsKept (line :: rest) (n + 1)
  | behindScript {script block rest n} :
      IsScript script block → IsKept rest n → IsKept (script ++ rest) (script.length + n)

theorem not_isKept_nil (n : Nat) : ¬ IsKept [] n := by
  intro h
  generalize hnil : ([] : List (List Char)) = lines at h
  cases h with
  | here => simp at hnil
  | behindLine => simp at hnil
  | behindScript hscript =>
      have hpos := hscript.length_pos
      simp_all

theorem isKept_cons_iff {line : List Char} {rest : List (List Char)}
    (h : ¬ StartsScript (line :: rest)) {n : Nat} :
    IsKept (line :: rest) n ↔ n = 0 ∨ ∃ k, n = k + 1 ∧ IsKept rest k := by
  constructor
  · intro hkept
    generalize hlines : line :: rest = lines at hkept
    cases hkept with
    | here => exact .inl rfl
    | behindLine _ hrest =>
        obtain ⟨rfl, rfl⟩ := List.cons.inj hlines
        exact .inr ⟨_, rfl, hrest⟩
    | behindScript hscript => exact absurd ⟨_, _, _, hscript, hlines⟩ h
  · rintro (rfl | ⟨k, rfl, hrest⟩)
    · exact .here h
    · exact .behindLine h hrest

theorem isKept_append_iff {script : List (List Char)} {block : ScriptBlock}
    (h : IsScript script block) {rest : List (List Char)} {n : Nat} :
    IsKept (script ++ rest) n ↔ ∃ k, n = script.length + k ∧ IsKept rest k := by
  constructor
  · intro hkept
    generalize hlines : script ++ rest = lines at hkept
    cases hkept with
    | here hstart => exact absurd ⟨_, _, _, h, hlines.symm⟩ hstart
    | behindLine hstart => exact absurd ⟨_, _, _, h, hlines.symm⟩ hstart
    | behindScript hscript hrest =>
        -- it is the same script, and the lines behind it are the same ones
        obtain ⟨rfl, rfl⟩ := h.append_inj hscript hlines
        exact ⟨_, rfl, hrest⟩
  · rintro ⟨k, rfl, hrest⟩
    exact .behindScript h hrest

theorem getElem?_behind (script rest : List (List Char)) (n : Nat) :
    (script ++ rest)[script.length + n]? = rest[n]? := by
  rw [List.getElem?_append_right (by omega), Nat.add_sub_cancel_left]

/-- Where a line is kept, no script starts. -/
theorem IsKept.not_startsScript {lines : List (List Char)} {n : Nat} (h : IsKept lines n) :
    ∃ line, lines[n]? = some line ∧ ¬ StartsScript (line :: lines.drop (n + 1)) := by
  induction h with
  | here hstart => exact ⟨_, rfl, hstart⟩
  | behindLine _ _ ih => exact ih
  | @behindScript script block rest n _ _ ih =>
      obtain ⟨line, hline, hstart⟩ := ih
      refine ⟨line, ?_, ?_⟩
      · rw [getElem?_behind, hline]
      · rwa [Nat.add_assoc, List.drop_append, List.drop_eq_nil_of_le (by omega), List.nil_append,
          Nat.add_sub_cancel_left]

/-- The lines that a scan keeps are, in order, those with the numbers that are kept. -/
theorem exists_numbers (lines : List (List Char)) :
    ∃ numbers : List Nat, numbers.Pairwise (· < ·) ∧ (∀ n, n ∈ numbers ↔ IsKept lines n) ∧
      ∀ index, (ofLines index lines).kept = numbers.filterMap (lines[·]?) := by
  induction lines using scan_induction with
  | nil => exact ⟨[], .nil, by simp [not_isKept_nil], fun index => by rw [ofLines]; rfl⟩
  | @script script block rest hscript ih =>
      -- behind a script the numbers go on where its lines end
      obtain ⟨numbers, hordered, hmem, hkept⟩ := ih
      refine ⟨numbers.map (script.length + ·), ?_, fun n => ?_, fun index => ?_⟩
      · exact List.pairwise_map.mpr (hordered.imp fun h => by omega)
      · rw [isKept_append_iff hscript, List.mem_map]
        simp only [hmem, eq_comm, and_comm]
      · rw [ofLines_script hscript, List.filterMap_map]
        exact (hkept _).trans (List.filterMap_congr fun n _ => (getElem?_behind script rest n).symm)
  | @kept line rest hstart ih =>
      obtain ⟨numbers, hordered, hmem, hkept⟩ := ih
      refine ⟨0 :: numbers.map (· + 1), ?_, fun n => ?_, fun index => ?_⟩
      · refine List.pairwise_cons.mpr ⟨by simp, ?_⟩
        exact List.pairwise_map.mpr (hordered.imp fun h => by omega)
      · rw [isKept_cons_iff hstart, List.mem_cons, List.mem_map]
        simp only [hmem, eq_comm, and_comm]
      · rw [kept_ofLines_cons hstart, hkept, List.filterMap_cons, List.filterMap_map]
        rfl

/-- What is never closed are the lines that are kept and open a script. -/
theorem mem_unterminated_ofLines_iff {lines : List (List Char)} {index m : Nat} :
    m ∈ (ofLines index lines).unterminated ↔
      ∃ n line, m = index + n ∧ IsKept lines n ∧ lines[n]? = some line ∧
        opens line = true := by
  induction lines using scan_induction generalizing index with
  | nil => simp [ofLines]
  | @script script block rest hscript ih =>
      rw [ofLines_script hscript]
      refine ih.trans ⟨?_, ?_⟩
      · rintro ⟨n, line, rfl, hn, hline, hopen⟩
        refine ⟨script.length + n, line, by omega, .behindScript hscript hn, ?_, hopen⟩
        rw [getElem?_behind, hline]
      · rintro ⟨n, line, rfl, hn, hline, hopen⟩
        obtain ⟨k, rfl, hk⟩ := (isKept_append_iff hscript).mp hn
        rw [getElem?_behind] at hline
        exact ⟨k, line, by omega, hk, hline, hopen⟩
  | @kept line rest hstart ih =>
      -- whether it opens a script or not, the lines behind it are read in the same way
      have hfirst : m ∈ (ofLines index (line :: rest)).unterminated ↔
          (m = index ∧ opens line = true) ∨
            m ∈ (ofLines (index + 1) rest).unterminated := by
        rw [ofLines_cons hstart]
        split
        · rename_i hopen
          simp [keepOpen, hopen]
        · rename_i hopen
          simp [keep, hopen]
      rw [hfirst, ih]
      constructor
      · rintro (⟨rfl, hopen⟩ | ⟨n, l, rfl, hn, hl, hopen⟩)
        · exact ⟨0, line, rfl, .here hstart, rfl, hopen⟩
        · exact ⟨n + 1, l, by omega, .behindLine hstart hn, hl, hopen⟩
      · rintro ⟨n, l, rfl, hn, hl, hopen⟩
        rcases (isKept_cons_iff hstart).mp hn with rfl | ⟨k, rfl, hk⟩
        · obtain rfl : line = l := by simpa using hl
          exact .inl ⟨rfl, hopen⟩
        · exact .inr ⟨k, l, by omega, hk, hl, hopen⟩

/-- **Never closed**: of the lines that are kept, those with a script that is never closed are those
that open one, where neither they nor the lines behind them close it. -/
theorem mem_unterminated_iff {t : List Char} {n : Nat} :
    n ∈ (ofText t).unterminated ↔
      IsKept (Text.lines t) n ∧ ∃ line phase first, (Text.lines t)[n]? = some line ∧
        opening? (trim line) = some (phase, first) ∧ ¬ closeMark <:+ trimEnd first ∧
          ∀ l ∈ (Text.lines t).drop (n + 1), ¬ closeMark <:+ trimEnd l := by
  rw [ofText, mem_unterminated_ofLines_iff]
  constructor
  · rintro ⟨n, line, rfl, hn, hline, hopen⟩
    rw [Nat.zero_add]
    obtain ⟨⟨phase, first⟩, hopen⟩ := Option.isSome_iff_exists.mp hopen
    -- no script starts at a line that is kept, so that nothing closes what it opens
    obtain ⟨line', hline', hstart⟩ := hn.not_startsScript
    obtain rfl : line = line' := Option.some.inj (hline.symm.trans hline')
    rw [startsScript_cons_iff, not_or] at hstart
    refine ⟨hn, line, phase, first, hline, hopen, fun hclose => ?_, fun l hl hclose => ?_⟩
    · exact hstart.1 ⟨phase, first, hopen, .inl hclose⟩
    · exact hstart.1 ⟨phase, first, hopen, .inr ⟨l, hl, hclose⟩⟩
  · rintro ⟨hn, line, phase, first, hline, hopen, -, -⟩
    exact ⟨n, line, (Nat.zero_add n).symm, hn, hline, by rw [opens, hopen]; rfl⟩

/-! ### Lines without scripts -/

/-- No script starts at any of the lines. -/
def Scriptless (lines : List (List Char)) : Prop := ∀ rest, rest <:+ lines → ¬ StartsScript rest

theorem scriptless_cons_iff {line : List Char} {rest : List (List Char)} :
    Scriptless (line :: rest) ↔ ¬ StartsScript (line :: rest) ∧ Scriptless rest := by
  simp only [Scriptless, List.suffix_cons_iff]
  constructor
  · intro h
    exact ⟨h _ (.inl rfl), fun rest' hrest => h rest' (.inr hrest)⟩
  · rintro ⟨hline, hrest⟩ rest' (rfl | hsuffix)
    · exact hline
    · exact hrest rest' hsuffix

theorem scriptless_nil : Scriptless [] := by
  rintro rest hrest ⟨script, block, after, hscript, rfl⟩
  have hpos := hscript.length_pos
  have hnil := congrArg List.length (List.suffix_nil.mp hrest)
  rw [List.length_append, List.length_nil] at hnil
  omega

/-- A script does not start at a line any more when lines that close none are left out behind it, and
blanks at the ends of the line do not matter. -/
theorem not_startsScript_of_trim {line line' : List Char} {rest rest' : List (List Char)}
    (hline : trim line' = trim line)
    (hrest : ∀ l' ∈ rest', ∃ l ∈ rest, trimEnd l' = trimEnd l)
    (h : ¬ StartsScript (line :: rest)) : ¬ StartsScript (line' :: rest') := by
  rw [startsScript_cons_iff] at h ⊢
  rw [hline]
  refine fun hstart => h (hstart.imp_left ?_)
  rintro ⟨phase, first, hopen, hclose⟩
  refine ⟨phase, first, hopen, hclose.imp_right ?_⟩
  rintro ⟨l', hl', hclose⟩
  obtain ⟨l, hl, htrim⟩ := hrest l' hl'
  exact ⟨l, hl, htrim ▸ hclose⟩

/-- **Left over**: no script starts at any of the lines that a scan keeps. -/
theorem scriptless_kept (index : Nat) (lines : List (List Char)) :
    Scriptless (ofLines index lines).kept := by
  induction lines using scan_induction generalizing index with
  | nil =>
      rw [ofLines]
      exact scriptless_nil
  | script hscript ih =>
      rw [ofLines_script hscript]
      exact ih _
  | @kept line rest hstart ih =>
      rw [kept_ofLines_cons hstart, scriptless_cons_iff]
      -- the lines left behind this one stood behind it before, so none closes what it opens
      refine ⟨not_startsScript_of_trim rfl (fun l hl => ?_) hstart, ih _⟩
      exact ⟨l, (setAside_ofLines _ rest).mem_of_mem_kept hl, rfl⟩

/-- Lines at which no script starts are all kept. -/
theorem ofLines_of_scriptless (index : Nat) {lines : List (List Char)} (h : Scriptless lines) :
    (ofLines index lines).blocks = [] ∧ (ofLines index lines).kept = lines := by
  induction lines generalizing index with
  | nil => rw [ofLines]; exact ⟨rfl, rfl⟩
  | cons line rest ih =>
      obtain ⟨hstart, hrest⟩ := scriptless_cons_iff.mp h
      obtain ⟨hblocks, hkept⟩ := ih (index + 1) hrest
      rw [ofLines_cons hstart]
      split
      · exact ⟨hblocks, congrArg (line :: ·) hkept⟩
      · exact ⟨hblocks, congrArg (line :: ·) hkept⟩

/-- The scripts that are never closed are counted by the lines that are kept. -/
theorem length_unterminated (index : Nat) (lines : List (List Char)) :
    (ofLines index lines).unterminated.length =
      (ofLines index lines).kept.countP opens := by
  induction lines using scan_induction generalizing index with
  | nil => rw [ofLines]; rfl
  | script hscript ih =>
      rw [ofLines_script hscript]
      exact ih _
  | @kept line rest hstart ih =>
      rw [ofLines_cons hstart]
      split
      · rename_i hopen
        rw [keepOpen, List.length_cons, List.countP_cons_of_pos hopen, ih]
      · rename_i hopen
        rw [keep, List.countP_cons_of_neg hopen, ih]

/-! ### The second scan -/

theorem scriptless_linesOfPieces {ps : List (List Char)} (h : Scriptless ps) :
    Scriptless (linesOfPieces ps) := by
  fun_induction linesOfPieces ps with
  | case1 => exact h
  | case2 => exact scriptless_nil
  | case3 => exact h
  | case4 piece next rest ih =>
      obtain ⟨hstart, hrest⟩ := scriptless_cons_iff.mp h
      refine scriptless_cons_iff.mpr ⟨?_, ih hrest⟩
      refine not_startsScript_of_trim (Text.trim_dropReturn piece) (fun l hl => ?_) hstart
      -- a line closes a script whether or not a carriage return stands at its end
      obtain ⟨p, hp, rfl | rfl⟩ := Text.exists_of_mem_linesOfPieces hl
      · exact ⟨l, hp, rfl⟩
      · exact ⟨p, hp, Text.trimEnd_dropReturn p⟩

theorem countP_opens_linesOfPieces (ps : List (List Char)) :
    (linesOfPieces ps).countP opens = ps.countP opens := by
  fun_induction linesOfPieces ps with
  | case1 => rfl
  | case2 last hlast =>
      obtain rfl : last = [] := by simpa using hlast
      rfl
  | case3 => rfl
  | case4 piece next rest ih =>
      have hpiece : opens (dropReturn piece) = opens piece := by
        rw [opens, Text.trim_dropReturn, opens]
      rw [List.countP_cons, List.countP_cons, hpiece, ih]

/-- **Rescan**: what a scan has left holds no script for another scan, and as many that are never
closed.  The lines that are kept are kept again as the ends of lines leave them: blanks at their ends
apart they are the same ones, and those that are not blank are the same ones exactly when none of
them but the last line has a carriage return at its end.  Of the lines of the text, those that are
kept and open a script that is not closed, there or behind them, are reported. -/
theorem ofText_remaining (t : List Char) :
    let scan := ofText t
    let again := ofText scan.remaining
    (again.blocks = [] ∧ again.unterminated.length = scan.unterminated.length ∧
      again.kept = linesOfPieces scan.kept ∧ Text.content again.kept = Text.content scan.kept ∧
      (again.kept.filter (!isBlankText ·) = scan.kept.filter (!isBlankText ·) ↔
        ∀ l ∈ scan.kept.dropLast, isBlankText l = false → l.getLast? ≠ some '\r')) ∧
    (∃ numbers : List Nat, numbers.Pairwise (· < ·) ∧
      (∀ n, n ∈ numbers ↔ IsKept (Text.lines t) n) ∧
        scan.kept = numbers.filterMap ((Text.lines t)[·]?)) ∧
    ∀ n, n ∈ scan.unterminated ↔
      IsKept (Text.lines t) n ∧ ∃ line phase first, (Text.lines t)[n]? = some line ∧
        opening? (trim line) = some (phase, first) ∧ ¬ closeMark <:+ trimEnd first ∧
          ∀ l ∈ (Text.lines t).drop (n + 1), ¬ closeMark <:+ trimEnd l := by
  intro scan again
  have hfeed : ∀ l ∈ scan.kept, '\n' ∉ l := fun l hl =>
    Text.newline_not_mem_lines ((setAside_ofLines 0 _).mem_of_mem_kept hl)
  -- what is left are the kept lines, and it is cut where they were joined
  have hagain : again = ofLines 0 (linesOfPieces scan.kept) :=
    congrArg (ofLines 0) (Text.lines_unlines_eq_linesOfPieces hfeed)
  have hscriptless : Scriptless (linesOfPieces scan.kept) :=
    scriptless_linesOfPieces (scriptless_kept 0 (Text.lines t))
  obtain ⟨hblocks, hkept⟩ := ofLines_of_scriptless 0 hscriptless
  have hcount : again.unterminated.length = scan.unterminated.length :=
    calc again.unterminated.length
        = (linesOfPieces scan.kept).countP opens := by rw [hagain, length_unterminated, hkept]
      _ = scan.kept.countP opens := countP_opens_linesOfPieces scan.kept
      _ = scan.unterminated.length := (length_unterminated 0 (Text.lines t)).symm
  have hlines : again.kept = linesOfPieces scan.kept := by rw [hagain, hkept]
  obtain ⟨numbers, hordered, hmem, hnumbers⟩ := exists_numbers (Text.lines t)
  refine ⟨⟨by rw [hagain, hblocks], hcount, hlines, ?_, ?_⟩,
    ⟨numbers, hordered, hmem, hnumbers 0⟩, fun n => mem_unterminated_iff⟩
  · rw [hlines, Text.content_linesOfPieces]
  · rw [hlines]
    exact Text.filter_linesOfPieces_eq_iff scan.kept

/-- Of several carriage returns at the end of a line, each scan takes one for the end of the line. -/
theorem ofText_remaining_return :
    let scan := ofText "a\r\r\r\nb".toList
    let again := ofText scan.remaining
    scan.kept = ["a\r\r".toList, "b".toList] ∧ again.kept = ["a\r".toList, "b".toList] ∧
      again.kept.filter (!isBlankText ·) ≠ scan.kept.filter (!isBlankText ·) := by
  decide +kernel

end ScriptScan

end HttpSuite
