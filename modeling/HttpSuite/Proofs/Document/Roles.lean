/-
HttpSuite/Proofs/Document/Roles.lean

What the lines of a section are.  The line with the name is set aside, and the scan takes the lines
of the scripts and keeps the others:

    lines  =  kept lines and, between them, the lines of scripts      (`setAside_ofLines`)

What is kept is joined and cut into lines again, which changes blanks at the ends of lines alone
(`content_zones_fst`).  Of these lines, those before the tests have one role each, which they can be
read as (`reads_roles`), and of the others some are read as extractions (`exists_of_roleOf`).

Main result: the lines that are not blank are counted again by their roles (`length_content_eq`).
-/
import HttpSuite.Document.Compile
import HttpSuite.Proofs.Text.Lines
import Mathlib.Data.List.Forall2
import Mathlib.Data.List.TakeDrop

namespace HttpSuite

open Text (content trim trimStart unlines)

/-! ### Lines that are set aside -/

namespace ScriptScan

/-- `IsScript lines block`: the lines hold the script of the block, from its sign to its end. -/
inductive IsScript : List (List Char) → ScriptBlock → Prop
  | oneLine {line phase first source} :
      opening? (trim line) = some (phase, first) → beforeClose? first = some source →
      IsScript [line] (inlineBlock phase source)
  | block {line phase first body close last} :
      opening? (trim line) = some (phase, first) → beforeClose? first = none →
      (∀ l ∈ body, beforeClose? l = none) → beforeClose? close = some last →
      IsScript (line :: (body ++ [close])) (inlineBlock phase (joinBody first body last))
  | file {line phase path} :
      opening? (trim line) = none → scriptFile? (trim line) = some (phase, path) →
      IsScript [line] ⟨phase, .file (String.ofList path)⟩

/-- `SetAside lines blocks kept`: the lines are those of the scripts of the blocks and, between
them, the lines that are kept. -/
inductive SetAside : List (List Char) → List ScriptBlock → List (List Char) → Prop
  | nil : SetAside [] [] []
  | kept {rest blocks kept} (line : List Char) :
      SetAside rest blocks kept → SetAside (line :: rest) blocks (line :: kept)
  | script {script block rest blocks kept} :
      IsScript script block → SetAside rest blocks kept →
      SetAside (script ++ rest) (block :: blocks) kept

/-- The lines of a script on several lines go up to the first one that closes it. -/
theorem eq_append_of_splitAtClose? {lines body after : List (List Char)} {last : List Char}
    (h : splitAtClose? lines = some (body, last, after)) :
    ∃ close, lines = body ++ close :: after ∧ beforeClose? close = some last ∧
      ∀ l ∈ body, beforeClose? l = none := by
  induction lines generalizing body with
  | nil => simp [splitAtClose?] at h
  | cons line rest ih =>
      simp only [splitAtClose?] at h
      split at h
      · rename_i hclose
        obtain ⟨rfl, rfl, rfl⟩ := by simpa using h
        exact ⟨line, rfl, hclose, by simp⟩
      · rename_i hopen
        obtain ⟨⟨body', last', after'⟩, hrest, he⟩ := Option.map_eq_some_iff.mp h
        obtain ⟨rfl, rfl, rfl⟩ := by simpa using he
        obtain ⟨close, rfl, hclose, hbody⟩ := ih hrest
        exact ⟨close, rfl, hclose, List.forall_mem_cons.mpr ⟨hopen, hbody⟩⟩

/-- The first line that closes a script is found behind lines that do not. -/
theorem splitAtClose?_append {body : List (List Char)} {close last : List Char}
    (h : ∀ line ∈ body, beforeClose? line = none) (hclose : beforeClose? close = some last)
    (after : List (List Char)) :
    splitAtClose? (body ++ close :: after) = some (body, last, after) := by
  induction body with
  | nil => simp only [List.nil_append, splitAtClose?, hclose]
  | cons line body ih =>
      have hline := h line List.mem_cons_self
      have hrest := ih fun l hl => h l (List.mem_cons_of_mem _ hl)
      simp only [List.cons_append, splitAtClose?, hline, hrest, Option.map_some]

/-- **A script** is taken wherever one starts. -/
theorem ofLines_script {script : List (List Char)} {block : ScriptBlock} (h : IsScript script block)
    (index : Nat) (rest : List (List Char)) :
    ofLines index (script ++ rest) = (ofLines (index + script.length) rest).addBlock block := by
  cases h with
  | oneLine hopen hclose =>
      rw [List.singleton_append, ofLines, hopen]
      simp only [hclose, List.length_singleton]
  | @block line phase first body close last hopen hclose hbody hlast =>
      have hfirst := splitAtClose?_append hbody hlast rest
      rw [List.cons_append, List.append_assoc, List.singleton_append, ofLines, hopen]
      simp only [hclose]
      split
      · rename_i body' last' after hsplit
        rw [hfirst] at hsplit
        obtain ⟨rfl, rfl, rfl⟩ := by simpa using hsplit
        simp [Nat.add_assoc]
      · rename_i hsplit
        rw [hfirst] at hsplit
        simp at hsplit
  | file hopen hfile =>
      rw [List.singleton_append, ofLines, hopen, hfile]
      rfl

/-- A scan keeps each line or takes it with a script. -/
theorem setAside_ofLines (index : Nat) (lines : List (List Char)) :
    SetAside lines (ofLines index lines).blocks (ofLines index lines).kept := by
  fun_induction ofLines index lines with
  | case1 => exact .nil
  | case2 index line rest phase first hopen source hclose ih =>
      exact .script (.oneLine hopen hclose) ih
  | case3 index line rest phase first hopen hclose body last after hsplit _ ih =>
      obtain ⟨close, rfl, hlast, hbody⟩ := eq_append_of_splitAtClose? hsplit
      have hscript := IsScript.block hopen hclose hbody hlast
      simpa [addBlock] using SetAside.script hscript ih
  | case4 index line rest phase first hopen hclose hsplit ih => exact .kept line ih
  | case5 index line rest hopen phase path hfile ih => exact .script (.file hopen hfile) ih
  | case6 index line rest hopen hfile ih => exact .kept line ih

/-- A line that is kept is one of the lines. -/
theorem SetAside.mem_of_mem_kept {lines kept : List (List Char)} {blocks : List ScriptBlock}
    (h : SetAside lines blocks kept) {l : List Char} (hl : l ∈ kept) : l ∈ lines := by
  induction h with
  | nil => exact hl
  | kept line _ ih =>
      rcases List.mem_cons.mp hl with rfl | hl
      · exact List.mem_cons_self
      · exact List.mem_cons_of_mem line (ih hl)
  | script _ _ ih => exact List.mem_append_right _ (ih hl)

/-- What is left of a text is cut where the lines that are kept were joined. -/
theorem lines_remaining (t : List Char) :
    Text.lines (ofText t).remaining = Text.linesOfPieces (ofText t).kept :=
  Text.lines_unlines_eq_linesOfPieces fun _ hl =>
    Text.newline_not_mem_lines ((setAside_ofLines 0 _).mem_of_mem_kept hl)

end ScriptScan

namespace Section

/-- The lines of a section without the one that names it. -/
def unnamed (s : Section) : List (List Char) :=
  match Text.lines s.text with
  | [] => []
  | first :: rest =>
    if Text.startsWith "###".toList (trimStart first) then rest else first :: rest

/-- The scripts of a section, and its other lines. -/
def scan (s : Section) : ScriptScan := ScriptScan.ofText (unlines s.unnamed)

/-- The lines that are left of a section, up to its first block of tests and from there on. -/
def zones (s : Section) : List (List Char) × List (List Char) :=
  Compilation.splitZones (Text.lines s.scan.remaining)

/-- The roles of the lines before the tests. -/
def roles (s : Section) : List RequestZone.LineRole :=
  RequestZone.roles .awaitingMethod s.zones.1

theorem mem_lines_of_mem_unnamed {s : Section} {l : List Char} (h : l ∈ s.unnamed) :
    l ∈ Text.lines s.text := by
  rw [unnamed] at h
  split at h
  · simp at h
  · rename_i first rest hlines
    rw [hlines]
    split at h
    · exact List.mem_cons_of_mem first h
    · exact h

theorem nameAndRest_snd (s : Section) : (Compilation.nameAndRest s.text).2 = s.unnamed := by
  rw [Compilation.nameAndRest, unnamed]
  cases Text.lines s.text with
  | nil => rfl
  | cons first rest =>
      simp only
      split
      · rename_i hmark
        rw [if_pos (by rw [Text.startsWith, hmark]; rfl)]
      · rename_i hmark
        rw [if_neg (by rw [Text.startsWith, hmark]; simp)]

end Section

/-! ### The lines before the tests -/

/-- A line is a delimiter whatever blanks stand around it. -/
theorem Line.isTestDelimiter_trim (line : List Char) :
    Line.isTestDelimiter (trim line) = Line.isTestDelimiter line := by
  rw [Line.isTestDelimiter, Line.isTestDelimiter, Text.trimStart_eq_self (Text.trim_trim line),
    trim, Bool.eq_iff_iff, Text.startsWith_iff, Text.startsWith_iff]
  constructor
  · intro h
    refine h.trans ?_
    have hsuffix := List.dropWhile_suffix Text.isBlank (l := (trimStart line).reverse)
    simpa [Text.trimEnd] using List.reverse_prefix.mpr hsuffix
  · rintro ⟨rest, hrest⟩
    have hmark : "####".toList ++ rest = "###".toList ++ '#' :: rest := rfl
    rw [← hrest, hmark, Text.trimEnd_append_cons (by decide)]
    exact ⟨Text.trimEnd rest, rfl⟩

/-- Lines are cut where a title follows lines that are none. -/
theorem Compilation.splitZones_append {front back : List (List Char)}
    (hfront : ∀ l ∈ front, Line.isTestDelimiter l = false)
    (hback : back.head?.all Line.isTestDelimiter = true) :
    splitZones (front ++ back) = (front, back) := by
  have hplain : ∀ l ∈ front, (!Line.isTestDelimiter l) = true := by simpa using hfront
  rw [splitZones, List.span_eq_takeWhile_dropWhile, List.takeWhile_append_of_pos hplain,
    List.dropWhile_append_of_pos hplain]
  cases back with
  | nil => rw [List.takeWhile_nil, List.dropWhile_nil, List.append_nil]
  | cons title back =>
      have htitle : Line.isTestDelimiter title = true := hback
      rw [List.takeWhile_cons_of_neg (by simp [htitle]),
        List.dropWhile_cons_of_neg (by simp [htitle]), List.append_nil]

theorem Text.content_takeWhile (lines : List (List Char)) :
    content (lines.takeWhile (!Line.isTestDelimiter ·)) =
      (content lines).takeWhile (!Line.isTestDelimiter ·) := by
  induction lines with
  | nil => rfl
  | cons line lines ih =>
      have hline := Line.isTestDelimiter_trim line
      by_cases htrim : trim line = []
      · -- a blank line is no delimiter
        have hno : Line.isTestDelimiter line = false := by
          rw [← hline, htrim]
          rfl
        rw [List.takeWhile_cons_of_pos (by simp [hno]), content_cons_of_blank htrim, ih,
          content_cons_of_blank htrim]
      · rw [content_cons_of_ne_nil htrim]
        cases hdelimiter : Line.isTestDelimiter line with
        | true =>
            rw [List.takeWhile_cons_of_neg (by simp [hdelimiter]),
              List.takeWhile_cons_of_neg (by simp [hline, hdelimiter]), content_nil]
        | false =>
            rw [List.takeWhile_cons_of_pos (by simp [hdelimiter]),
              List.takeWhile_cons_of_pos (by simp [hline, hdelimiter]),
              content_cons_of_ne_nil htrim, ih]

/-- The lines before the tests are, blanks apart, the kept ones before the first delimiter. -/
theorem Section.content_zones_fst (s : Section) :
    content s.zones.1 = (content s.scan.kept).takeWhile (!Line.isTestDelimiter ·) := by
  rw [zones, Compilation.splitZones, List.span_eq_takeWhile_dropWhile, scan,
    ScriptScan.lines_remaining, Text.content_takeWhile, Text.content_linesOfPieces]

/-! ### Roles -/

namespace RequestZone

namespace LineRole

/-- The request line of a role. -/
def request? : LineRole → Option RequestLine
  | request line => some line
  | _ => none

/-- The text that a role adds to the target. -/
def query? : LineRole → Option String
  | query text => some text
  | _ => none

/-- The header of a role. -/
def header? : LineRole → Option (String × String)
  | header key value => some (key, value)
  | _ => none

/-- The directive of a role. -/
def directive? : LineRole → Option Directive
  | directive (.ok d) => some d
  | _ => none

/-- What is reported of a role. -/
def problem? : LineRole → Option Problem
  | directive (.error cause) => some (.invalidDirective cause)
  | stray text => some (.strayLine text)
  | namelessHeader text => some (.namelessHeader text)
  | _ => none

end LineRole

/-- `Reads line role`: a line can be read as what the role says. -/
inductive Reads (line : List Char) : LineRole → Prop
  | blank : trim line = [] → Reads line .blank
  | directive {d} : Directive.ofLine? (trim line) = some d → Reads line (.directive d)
  | request {l} : Line.requestLine? (trim line) = some l → Reads line (.request l)
  | stray : trim line ≠ [] → Reads line (.stray (String.ofList (trim line)))
  | query : Line.isQuery (trim line) = true → Reads line (.query (String.ofList (trim line)))
  | header {key value} :
      Line.header? (trim line) = some (key, value) → Reads line (.header key value)
  | namelessHeader :
      Line.isHeader (trim line) = true → Line.header? (trim line) = none →
      Reads line (.namelessHeader (String.ofList (trim line)))
  | body : Reads line (.body line)

/-- A line has a role that it can be read as, however far the request has been read. -/
theorem reads_roleOf (mode : Mode) (line : List Char) : Reads line (roleOf mode line).1 := by
  cases mode with
  | awaitingMethod =>
      simp only [roleOf]
      split
      · rename_i hblank
        exact .blank (by simpa using hblank)
      · rename_i hblank
        split
        · rename_i hdirective
          exact .directive hdirective
        · split
          · rename_i hrequest
            exact .request hrequest
          · exact .stray (by simpa using hblank)
  | headers fresh =>
      simp only [roleOf]
      split
      · rename_i hblank
        exact .blank (by simpa using hblank)
      · split
        · rename_i hdirective
          exact .directive hdirective
        · split
          · rename_i hquery
            exact .query (by simpa using (Bool.and_eq_true _ _ ▸ hquery).2)
          · split
            · rename_i hheader
              split
              · rename_i hkey
                exact .header hkey
              · rename_i hkey
                exact .namelessHeader hheader hkey
            · exact .body
  | body => exact .body

/-- Each line of a text has its role. -/
theorem reads_roles (mode : Mode) (lines : List (List Char)) :
    List.Forall₂ Reads lines (roles mode lines) := by
  induction lines generalizing mode with
  | nil => exact .nil
  | cons line lines ih => exact .cons (reads_roleOf mode line) (ih _)

/-! A line of each role. -/

example : roles .awaitingMethod
      (["note", "@name x", "GET /", "&q=1", ": v", "A: b", "", "body"].map String.toList) =
    [.stray "note", .directive (.ok (.nameBinding "x")), .request ⟨.get, "/"⟩, .query "&q=1",
      .namelessHeader ": v", .header "A" "b", .blank, .body "body".toList] := by
  rfl

open LineRole

/-- Before the request line a line adds nothing to the target. -/
theorem roleOf_awaitingMethod (line : List Char) :
    (∃ l, roleOf .awaitingMethod line = (.request l, .headers true)) ∨
      (roleOf .awaitingMethod line).2 = .awaitingMethod ∧
        (roleOf .awaitingMethod line).1.request? = none ∧
        (roleOf .awaitingMethod line).1.query? = none := by
  simp only [roleOf]
  split
  · exact .inr ⟨rfl, rfl, rfl⟩
  · split
    · exact .inr ⟨rfl, rfl, rfl⟩
    · split
      · exact .inl ⟨_, rfl⟩
      · exact .inr ⟨rfl, rfl, rfl⟩

/-- After the request line no other one is looked for. -/
theorem roleOf_of_ne_awaitingMethod {mode : Mode} (h : mode ≠ .awaitingMethod)
    (line : List Char) :
    (roleOf mode line).2 ≠ .awaitingMethod ∧ (roleOf mode line).1.request? = none := by
  cases mode with
  | awaitingMethod => exact absurd rfl h
  | headers fresh =>
      simp only [roleOf]
      repeat' split
      all_goals exact ⟨by simp, rfl⟩
  | body => exact ⟨by simp [roleOf], rfl⟩

theorem request?_eq_none_of_mem_roles {mode : Mode} (h : mode ≠ .awaitingMethod)
    {lines : List (List Char)} : ∀ role ∈ roles mode lines, role.request? = none := by
  induction lines generalizing mode with
  | nil => simp [roles]
  | cons line lines ih =>
      obtain ⟨hmode, hrole⟩ := roleOf_of_ne_awaitingMethod h line
      exact List.forall_mem_cons.mpr ⟨hrole, ih hmode⟩

/-- Blank lines are read as blank, or belong to the body. -/
theorem Reads.ne_nil {line : List Char} {role : LineRole} (h : Reads line role)
    (hblank : role ≠ .blank) (hbody : role.body? = none) : trim line ≠ [] := by
  intro htrim
  cases h with
  | blank _ => exact hblank rfl
  | directive hdirective => simp [htrim, Directive.ofLine?] at hdirective
  | request hrequest => simp [htrim, Line.requestLine?, Text.words] at hrequest
  | stray hstray => exact hstray htrim
  | query hquery => simp [htrim, Line.isQuery] at hquery
  | header hheader => simp [htrim, Line.header?, Text.splitOnce?] at hheader
  | namelessHeader hheader _ => simp [htrim, Line.isHeader] at hheader
  | body => simp [LineRole.body?] at hbody

/-- The lines that are not blank are counted again by their roles. -/
theorem length_content_eq {lines : List (List Char)} {roles : List LineRole}
    (h : List.Forall₂ Reads lines roles) :
    (content lines).length =
      (roles.filterMap request?).length + (roles.filterMap query?).length +
        (roles.filterMap header?).length + (roles.filterMap directive?).length +
        (roles.filterMap problem?).length + (content (roles.filterMap body?)).length := by
  induction h with
  | nil => rfl
  | @cons line role lines roles hline _ ih =>
      -- a role that is neither blank nor of the body is that of one line that is not blank
      have hone : role ≠ .blank → role.body? = none →
          (content (line :: lines)).length = (content lines).length + 1 := by
        intro hblank hbody
        rw [Text.content_cons_of_ne_nil (hline.ne_nil hblank hbody), List.length_cons]
      cases role with
      | blank =>
          cases hline with
          | blank htrim => rw [Text.content_cons_of_blank htrim, ih]; rfl
      | body line' =>
          cases hline with
          | body =>
              by_cases htrim : trim line = []
              · rw [Text.content_cons_of_blank htrim, ih]
                simp [List.filterMap_cons, request?, query?, header?, directive?, problem?, body?,
                  Text.content_cons_of_blank htrim]
              · rw [Text.content_cons_of_ne_nil htrim, List.length_cons, ih]
                simp [List.filterMap_cons, request?, query?, header?, directive?, problem?, body?,
                  Text.content_cons_of_ne_nil htrim]
                omega
      | directive d =>
          rw [hone (by simp) rfl, ih]
          cases d <;>
            simp [List.filterMap_cons, request?, query?, header?, directive?, problem?, body?] <;>
            omega
      | _ =>
          rw [hone (by simp) rfl, ih]
          simp [List.filterMap_cons, request?, query?, header?, directive?, problem?, body?]
          omega

end RequestZone

/-! ### Extractions -/

namespace TestZone

/-- A line that is read as an extraction is a path with a key. -/
theorem exists_of_roleOf {line : List Char} {d : Directive} (h : roleOf line = .extraction d) :
    ∃ key path, d = .pathExtraction key path ∧ Directive.ofLine? (trim line) = some (.ok d) := by
  revert h
  fun_cases roleOf line with
  | case1 => simp
  | case2 => simp
  | case3 line _ _ key path hread =>
      rintro ⟨⟩
      exact ⟨key, path, rfl, hread⟩
  | case4 => simp

/-- What is taken out of tests are lines that are read as extractions. -/
theorem exists_of_mem_extractions {lines : List (List Char)} {d : Directive}
    (h : d ∈ (ofLines lines).extractions) : ∃ line ∈ lines, roleOf line = .extraction d := by
  obtain ⟨role, hrole, hd⟩ := List.mem_filterMap.mp h
  obtain ⟨line, hline, rfl⟩ := List.mem_map.mp hrole
  refine ⟨line, hline, ?_⟩
  split at hd
  · rename_i hread
    rw [hread, Option.some.inj hd]
  · simp at hd

end TestZone

end HttpSuite
