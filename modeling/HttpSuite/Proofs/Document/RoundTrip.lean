/-
HttpSuite/Proofs/Document/RoundTrip.lean

Reading a printed document gives back what was printed.  The stages of the compiler are taken one by
one, each on the lines of drafts: the comments and sections (`split_document`), then for one section
the name, the scripts, the zones, the roles of the lines of the request and the blocks of tests
(`compileSection_print`).  No stage takes more than its lines, for each of them asks how a line
starts, and a printed line starts in its own way.

Main result: `compile_document`, for every list of drafts.
-/
import HttpSuite.Proofs.Document.Draft
import HttpSuite.Proofs.Document.Extraction
import HttpSuite.Proofs.Document.Separation
import Mathlib.Data.List.TakeDrop

namespace HttpSuite

open Text (isBlank trim trimStart startsWith unlines)

/-! ### Sections -/

namespace Draft

theorem lines_print (d : Draft) : Text.lines (unlines d.print) = d.print :=
  FitsLine.lines_unlines d.print_fits d.getLast?_print_ne

theorem lines_zones (d : Draft) :
    Text.lines (unlines (d.requestZone ++ d.testZone)) = d.requestZone ++ d.testZone :=
  FitsLine.lines_unlines (fun line hline => d.print_fits line (List.mem_cons_of_mem _ hline))
    d.getLast?_zones_ne

/-- No printed line is a comment. -/
theorem isComment_eq_false {d : Draft} : ∀ line ∈ d.print, Line.isComment line = false := by
  intro line hline
  rcases List.mem_cons.mp hline with rfl | hline
  · rfl
  · rcases d.plain_or_title hline with hplain | ⟨t, rfl⟩
    · exact hplain.isComment
    · rfl

/-- Only the first line of a draft begins a section. -/
theorem isSectionDelimiter_eq_false {d : Draft} :
    ∀ line ∈ d.requestZone ++ d.testZone, Line.isSectionDelimiter line = false := by
  intro line hline
  rcases d.plain_or_title hline with hplain | ⟨t, rfl⟩
  · exact hplain.isSectionDelimiter
  · rfl

/-- A draft is printed to the text of a section. -/
theorem isSectionText_print (d : Draft) : Section.IsSectionText (unlines d.print) where
  noReturn h := by
    rcases Text.mem_unlines h with hfeed | ⟨line, hline, hreturn⟩
    · exact absurd hfeed (by decide)
    · exact (d.print_fits line hline).noReturn hreturn
  noFeedAtEnd := Text.getLast?_unlines_ne (fun line hline hlast =>
    (d.print_fits line hline).noFeed (List.mem_of_getLast? hlast)) d.getLast?_print_ne
  delimited := ⟨d.nameLine, _, d.lines_print, rfl, d.isSectionDelimiter_eq_false⟩
  noComment := by
    rw [d.lines_print]
    exact d.isComment_eq_false

/-- **Sections of a printed document**: one for each draft, with its lines. -/
theorem split_document (ds : List Draft) :
    Section.split (document ds).toList =
      ds.mapIdx fun index d => ⟨index, .request, unlines d.print⟩ := by
  have htexts : unlines (ds.flatMap print) = unlines (ds.map fun d => unlines d.print) := by
    have hne : ∀ lines ∈ ds.map print, lines ≠ [] := by
      intro lines hlines
      obtain ⟨d, -, rfl⟩ := List.mem_map.mp hlines
      exact List.cons_ne_nil _ _
    rw [List.flatMap_def, Text.unlines_flatten hne, List.map_map]
    rfl
  have hsections : ∀ text ∈ ds.map fun d => unlines d.print, Section.IsSectionText text := by
    intro text htext
    obtain ⟨d, -, rfl⟩ := List.mem_map.mp htext
    exact d.isSectionText_print
  have hcomment : ¬ Section.Commented (unlines (ds.flatMap print)) := by
    rintro ⟨before, inside, after, h⟩
    refine Text.not_pair_infix_unlines (a := '/') (b := '*') (by decide) (by decide) ?_
      ⟨before, inside ++ "*/".toList ++ after, by simpa using h.symm⟩
    intro line hline
    obtain ⟨d, -, hd⟩ := List.mem_flatMap.mp hline
    exact (d.print_fits line hd).noComment
  rw [htexts] at hcomment
  rw [document, String.toList_ofList, htexts,
    (Section.split_unlines_eq_iff hsections).mpr hcomment]
  exact List.ext_getElem (by simp) (by simp)

/-! ### The stages of a section -/

/-- The name of a section is that of its draft. -/
theorem nameAndRest_print (d : Draft) :
    Compilation.nameAndRest (unlines d.print) =
      (String.ofList d.name, d.requestZone ++ d.testZone) := by
  have hname : Text.stripStart? "###".toList (trimStart d.nameLine) = some (' ' :: d.name) := rfl
  rw [Compilation.nameAndRest, lines_print, print]
  simp only [hname]
  rw [Text.trim_cons_of_blank (by decide), d.name_trimmed]

/-- A draft has no scripts. -/
theorem scan_zones (d : Draft) :
    ScriptScan.ofText (unlines (d.requestZone ++ d.testZone)) =
      ⟨[], d.requestZone ++ d.testZone, []⟩ := by
  rw [ScriptScan.ofText, lines_zones]
  refine ScriptScan.ofLines_eq_of_unsigned 0 fun line hline => ?_
  rcases d.plain_or_title hline with hplain | ⟨t, rfl⟩
  · exact hplain.unsigned
  · have htrim : trim t.titleLine = '#' :: Text.trimEnd ("###".toList ++ ' ' :: t.title) :=
      Text.trim_cons_of_not_blank (by decide) _
    rw [htrim]
    exact ⟨by simp, by simp⟩

/-- The zones of a section are those of its draft. -/
theorem splitZones_print (d : Draft) :
    Compilation.splitZones (d.requestZone ++ d.testZone) = (d.requestZone, d.testZone) := by
  refine Compilation.splitZones_append
    (fun line hline => (d.requestZone_plain line hline).isTestDelimiter) ?_
  -- the test zone is empty or begins with a title
  cases htests : d.tests with
  | nil => simp [testZone, htests]
  | cons t tests =>
      have htitle : Line.isTestDelimiter t.titleLine = true := rfl
      simp [testZone, htests, Tests.print, htitle]

end Draft

/-! ### The roles of lines -/

/-- A line that starts neither with a blank nor with an at sign is no directive. -/
theorem Directive.ofLine?_cons_eq_none {c : Char} (hblank : isBlank c = false) (hat : c ≠ '@')
    (s : List Char) : Directive.ofLine? (c :: s) = none := by
  rw [Directive.ofLine?, Text.trimStart_cons_of_not_blank hblank]
  split
  · rename_i h
    exact absurd (List.cons.inj h).1 hat
  · rfl

/-- A word with a mark in it is no method. -/
theorem Method.ofText?_eq_none {c : Char} {s : String} (hc : isKeyChar c = false)
    (h : c ∈ s.toList) : Method.ofText? s = none := by
  refine List.find?_eq_none.mpr fun m _ hm => ?_
  obtain rfl : m.text = s := by simpa using hm
  exact isKeyChar.ne_of_eq_false hc (isKeyChar.of_method m c h) rfl

namespace Draft

open RequestZone

theorem Id.ofLine?_line (i : Id) :
    Directive.ofLine? i.line = some (.ok (.nameBinding (String.ofList i.text))) := by
  have htrim : trim ("name".toList ++ ' ' :: i.text) = "name".toList ++ ' ' :: i.text :=
    Text.trim_append_cons (a := 'n') rfl (by decide) i.trimmed i.ne_nil
  have hword : Directive.afterNameWord? ("name".toList ++ ' ' :: i.text) = some i.text := rfl
  have hequals : i.text.dropWhile (· == '=') = i.text := by
    obtain ⟨c, s, htext⟩ := List.exists_cons_of_ne_nil i.ne_nil
    have hc := i.noEquals
    rw [htext] at hc ⊢
    exact List.dropWhile_cons_of_neg (by simpa using hc)
  have hempty : i.text.isEmpty = false := List.isEmpty_eq_false_iff.mpr i.ne_nil
  calc Directive.ofLine? i.line
      = some (Directive.ofBody (trim ("name".toList ++ ' ' :: i.text))) := rfl
    _ = some (Directive.nameOf i.text) := by rw [htrim, Directive.ofBody, hword]
    _ = some (.ok (.nameBinding (String.ofList i.text))) := by
        rw [Directive.nameOf, Text.trimStart_eq_self i.trimmed, hequals, i.trimmed, hempty]
        rfl

theorem roleOf_id (i : Id) :
    roleOf .awaitingMethod i.line =
      (.directive (.ok (.nameBinding (String.ofList i.text))), .awaitingMethod) := by
  have htrim : trim i.line = i.line :=
    Text.trim_append_cons (a := '@') rfl (by decide) i.trimmed i.ne_nil
  have hempty : i.line.isEmpty = false := rfl
  simp only [roleOf, htrim, hempty, i.ofLine?_line, Bool.false_eq_true, if_false]

theorem requestLine?_requestLine (d : Draft) :
    Line.requestLine? d.requestLine = some ⟨d.method, String.ofList d.target⟩ := by
  have hmethod := isKeyChar.of_method d.method
  have hwords : Text.words d.requestLine =
      [d.method.text.toList, d.target, "HTTP/1.1".toList] := by
    rw [requestLine,
      Text.words_append_cons (isKeyChar.text_ne_nil d.method)
        (fun c hc => isKeyChar.isBlank_eq_false (hmethod c hc)) (by decide),
      Text.words_append_cons d.target_ne_nil d.target_word (by decide),
      Text.words_eq_singleton (by decide) (Text.isBlank_eq_false_of_any rfl)]
  rw [Line.requestLine?, hwords]
  simp only [String.ofList_toList, Method.ofText?_text, Option.map_some]

theorem roleOf_requestLine (d : Draft) :
    roleOf .awaitingMethod d.requestLine =
      (.request ⟨d.method, String.ofList d.target⟩, .headers true) := by
  obtain ⟨c, s, hmethod, hc⟩ :=
    isKeyChar.exists_eq_cons (isKeyChar.text_ne_nil d.method) (isKeyChar.of_method d.method)
  have hblank : isBlank c = false := isKeyChar.isBlank_eq_false hc
  have htrim : trim d.requestLine = d.requestLine := by
    obtain ⟨a, t, htarget⟩ := List.exists_cons_of_ne_nil d.target_ne_nil
    have ha : isBlank a = false := d.target_word a (by simp [htarget])
    refine Text.trim_append_cons (by rw [hmethod]; rfl) hblank ?_ (spaced_ne_nil _ _)
    exact Text.trim_append_cons (by rw [htarget]; rfl) ha (by decide) (by decide)
  have hempty : d.requestLine.isEmpty = false := by simp [requestLine]
  have hdirective : Directive.ofLine? d.requestLine = none := by
    rw [requestLine, hmethod]
    exact Directive.ofLine?_cons_eq_none hblank (isKeyChar.ne_of_eq_false (by decide) hc).symm _
  simp only [roleOf, htrim, hempty, hdirective, d.requestLine?_requestLine, Bool.false_eq_true,
    if_false]

/-- A header line without the blanks at its end. -/
theorem Header.trim_line (h : Header) :
    trim h.line = h.key ++ ':' :: Text.trimEnd (' ' :: h.value) := by
  obtain ⟨c, s, hkey, hc⟩ := isKeyChar.exists_eq_cons h.key_ne_nil h.key_chars
  have hline : h.line = c :: (s ++ ':' :: ' ' :: h.value) := by simp [Header.line, hkey]
  rw [hline, Text.trim_cons_of_not_blank (isKeyChar.isBlank_eq_false hc),
    Text.trimEnd_append_cons (by decide), hkey]
  rfl

/-- A header line is no request line: its first word has a colon at its end. -/
theorem Header.requestLine?_line (h : Header) : Line.requestLine? (trim h.line) = none := by
  have hmethod : Method.ofText? (String.ofList (h.key ++ [':'])) = none :=
    Method.ofText?_eq_none (c := ':') (by decide) (by simp)
  -- without a value, the name and the colon are all of the line
  rw [h.trim_line, Text.trimEnd_cons_of_blank (by decide) h.value_trimmed, Line.requestLine?]
  split_ifs
  · rw [Text.words_eq_singleton (by simp) h.isBlank_eq_false]
  · rw [List.append_cons, Text.words_append_cons (by simp) h.isBlank_eq_false (by decide)]
    cases Text.words h.value with
    | nil => rfl
    | cons target rest => simp only [hmethod, Option.map_none]

theorem Header.header?_line (h : Header) :
    Line.header? (trim h.line) = some (String.ofList h.key, String.ofList h.value) := by
  have hcolon : ':' ∉ h.key := fun hc => absurd (h.key_chars ':' hc) (by decide)
  have hkey : trim h.key = h.key := by
    refine Text.trim_eq_self_iff.mpr ⟨fun c hc => ?_, fun c hc => ?_⟩
    · exact isKeyChar.isBlank_eq_false (h.key_chars c (List.mem_of_head? hc))
    · exact isKeyChar.isBlank_eq_false (h.key_chars c (List.mem_of_getLast? hc))
  have hempty : h.key.isEmpty = false := List.isEmpty_eq_false_iff.mpr h.key_ne_nil
  -- the first colon is the one behind the name, whatever the value holds
  rw [Line.header?, h.trim_line, Text.splitOnce?_append_cons hcolon]
  simp only [hkey, hempty, Text.trim_trimEnd_cons (c := ' ') (by decide) h.value_trimmed,
    Bool.false_eq_true, if_false]

theorem roleOf_header (fresh : Bool) (h : Header) :
    roleOf (.headers fresh) h.line =
      (.header (String.ofList h.key) (String.ofList h.value), .headers false) := by
  obtain ⟨c, s, hkey, hc⟩ := isKeyChar.exists_eq_cons h.key_ne_nil h.key_chars
  have hblank : isBlank c = false := isKeyChar.isBlank_eq_false hc
  have hne : ∀ mark, isKeyChar mark = false → c ≠ mark := fun mark hmark =>
    (isKeyChar.ne_of_eq_false hmark hc).symm
  obtain ⟨rest, hline⟩ : ∃ rest, trim h.line = c :: rest := by
    rw [h.trim_line, hkey]
    exact ⟨_, rfl⟩
  have hcolon : (c :: rest).contains ':' = true := by
    rw [← hline, h.trim_line]
    simp
  have hstart : trimStart (c :: rest) = c :: rest := Text.trimStart_cons_of_not_blank hblank
  have hdirective : Directive.ofLine? (c :: rest) = none :=
    Directive.ofLine?_cons_eq_none hblank (hne '@' (by decide)) rest
  -- directives and queries, which are looked for first, start with other characters
  have hquery : Line.isQuery (c :: rest) = false := by
    rw [Line.isQuery, hstart]
    split
    · rename_i hmark
      exact absurd (List.cons.inj hmark).1 (hne '?' (by decide))
    · rename_i hmark
      exact absurd (List.cons.inj hmark).1 (hne '&' (by decide))
    · rfl
  have hheader : Line.isHeader (c :: rest) = true := by
    have hrequest := h.requestLine?_line
    rw [hline] at hrequest
    simp only [Line.isHeader, hstart, hcolon, Line.isRequestLine, hrequest, List.head?_cons]
    simpa using hne '@' (by decide)
  have hvalue := h.header?_line
  rw [hline] at hvalue
  simp only [roleOf, hline, List.isEmpty_cons, hdirective, hquery, hheader, hvalue,
    Bool.and_false, Bool.false_eq_true, if_false, if_true]

/-- The role of the line of a name for references. -/
def Id.role (i : Id) : LineRole := .directive (.ok (.nameBinding (String.ofList i.text)))

/-- The role of the line of a header. -/
def Header.role (h : Header) : LineRole := .header (String.ofList h.key) (String.ofList h.value)

theorem roles_headers (headers : List Header) (fresh : Bool) (rest : List (List Char)) :
    ∃ fresh', roles (.headers fresh) (headers.map Header.line ++ rest) =
      headers.map Header.role ++ roles (.headers fresh') rest := by
  induction headers generalizing fresh with
  | nil => exact ⟨fresh, rfl⟩
  | cons h headers ih =>
      -- no header continues the query of the request line, so `fresh` does not matter
      obtain ⟨fresh', hroles⟩ := ih false
      refine ⟨fresh', ?_⟩
      simp only [List.map_cons, List.cons_append, roles, roleOf_header, hroles]
      rfl

/-- Behind the first line of a body, every line belongs to it. -/
theorem roles_body (lines : List (List Char)) : roles .body lines = lines.map .body := by
  induction lines with
  | nil => rfl
  | cons line lines ih =>
      rw [List.map_cons, ← ih]
      rfl

/-- **Roles of the request zone**: each printed line has the role that it was printed for. -/
theorem roles_requestZone (d : Draft) :
    roles .awaitingMethod d.requestZone =
      d.id.toList.map Id.role ++ (.request ⟨d.method, String.ofList d.target⟩ ::
        (d.headers.map Header.role ++
          d.body.toList.flatMap fun b => .blank :: b.lines.map .body)) := by
  obtain ⟨fresh, hheaders⟩ :=
    roles_headers d.headers true (d.body.toList.flatMap Body.print)
  have hbody : roles (.headers fresh) (d.body.toList.flatMap Body.print) =
      d.body.toList.flatMap fun b => .blank :: b.lines.map .body := by
    cases d.body with
    | none => rfl
    | some b =>
        have hblank : roleOf (.headers fresh) [] = (.blank, .body) := rfl
        simp [Body.print, roles, hblank, roles_body]
  rw [hbody] at hheaders
  cases hid : d.id with
  | none => simp [requestZone, hid, roles, roleOf_requestLine, hheaders]
  | some i => simp [requestZone, hid, roles, roleOf_requestLine, roleOf_id, Id.role, hheaders]

/-! ### Units -/

section Unit

variable (w : World) (index : Nat) (u : RequestUnit) (c : Compilation)

theorem lines_append (xs ys : List LineRole) :
    Compilation.lines w index u c (xs ++ ys) =
      Compilation.lines w index (Compilation.lines w index u c xs).1
        (Compilation.lines w index u c xs).2 ys := by
  rw [Compilation.lines, List.foldl_append]
  rfl

theorem lines_headers (headers : List Header) :
    Compilation.lines w index u c (headers.map Header.role) =
      ({ u with headers := u.headers ++
          headers.map fun h => (String.ofList h.key, String.ofList h.value) }, c) := by
  induction headers generalizing u with
  | nil => simp [Compilation.lines]
  | cons h headers ih =>
      calc Compilation.lines w index u c ((h :: headers).map Header.role)
          = Compilation.lines w index
              { u with headers := u.headers ++ [(String.ofList h.key, String.ofList h.value)] } c
              (headers.map Header.role) := rfl
        _ = _ := by
            rw [ih]
            simp

theorem lines_body (lines : List (List Char)) :
    Compilation.lines w index u c (lines.map .body) = (u, c) := by
  induction lines with
  | nil => rfl
  | cons line lines ih => exact ih

end Unit

/-- The lines of a printed body make it up again. -/
theorem bodyOf_lines (b : Body) : bodyOf b.lines = b.toRequestBody := by
  obtain ⟨line, rest, hlines⟩ := List.exists_cons_of_ne_nil b.ne_nil
  have hfront : b.lines.dropWhile Text.isBlankText = b.lines := by
    have hline := b.first line (by rw [hlines]; rfl)
    rw [hlines]
    exact List.dropWhile_cons_of_neg (by simp [hline])
  have hback : b.lines.reverse.dropWhile Text.isBlankText = b.lines.reverse := by
    obtain ⟨last, front, hreverse⟩ : ∃ last front, b.lines.reverse = last :: front :=
      List.exists_cons_of_ne_nil (by simpa using b.ne_nil)
    have hlast := b.last last (by rw [← List.head?_reverse, hreverse]; rfl)
    rw [hreverse]
    exact List.dropWhile_cons_of_neg (by simp [hlast])
  -- the body starts as its first line does, and that has no sign of a file in front
  have hfile : ScriptScan.bodyFile? (unlines b.lines) = none := by
    obtain ⟨more, hmore⟩ : ∃ more, unlines b.lines = line ++ more := by
      rw [hlines]
      cases rest with
      | nil => exact ⟨[], by simp [unlines]⟩
      | cons next rest => exact ⟨_, Text.unlines_cons_cons line next rest⟩
    have hhead : (trim (unlines b.lines)).head? = (trim line).head? := by
      rw [Text.head?_trim, hmore,
        Text.head?_trimStart_append (b.first line (by rw [hlines]; rfl)), ← Text.head?_trim]
    rcases htrim : trim (unlines b.lines) with - | ⟨sign, tail⟩
    · simp [ScriptScan.bodyFile?, htrim, ScriptScan.fileReference?]
    · rw [htrim] at hhead
      obtain ⟨tail', htail⟩ := List.head?_eq_some_iff.mp hhead.symm
      have hplain := b.plain line (by rw [hlines]; exact List.mem_cons_self)
      have hphase := ScriptScan.phaseOf?_of_unsigned hplain.unsigned htail
      simp only [ScriptScan.bodyFile?, htrim, ScriptScan.fileReference?, hphase]
  have hempty : b.lines.isEmpty = false := List.isEmpty_eq_false_iff.mpr b.ne_nil
  simp only [bodyOf, hfront, hback, List.reverse_reverse, hempty, hfile, Bool.false_eq_true,
    if_false]
  rfl

/-! ### Tests -/

theorem roleOf_titleLine (t : Tests) :
    TestZone.roleOf t.titleLine = .title (String.ofList t.title) := by
  have htrim : trim t.titleLine = "####".toList ++ Text.trimEnd (' ' :: t.title) :=
    calc trim t.titleLine
        = '#' :: Text.trimEnd ("##".toList ++ '#' :: (' ' :: t.title)) :=
          Text.trim_cons_of_not_blank (by decide) _
      _ = "####".toList ++ Text.trimEnd (' ' :: t.title) := by
          rw [Text.trimEnd_append_cons (by decide)]
          rfl
  have hmarks : ("####".toList ++ Text.trimEnd (' ' :: t.title)).dropWhile (· == '#') =
      Text.trimEnd (' ' :: t.title) := by
    rw [List.dropWhile_append_of_pos (List.all_eq_true.mp rfl),
      Text.trimEnd_cons_of_blank (by decide) t.title_trimmed]
    split_ifs
    · rfl
    · rfl
  have hdelimiter :
      Line.isTestDelimiter ("####".toList ++ Text.trimEnd (' ' :: t.title)) = true := rfl
  have hempty : ("####".toList ++ Text.trimEnd (' ' :: t.title)).isEmpty = false := rfl
  simp only [TestZone.roleOf, htrim, hempty, hdelimiter, hmarks, if_true, Bool.false_eq_true,
    if_false, Text.trim_trimEnd_cons (c := ' ') (by decide) t.title_trimmed]

theorem roleOf_testLine (t : Tests) {line : List Char} (hline : line ∈ t.lines) :
    TestZone.roleOf line = .test (String.ofList line) := by
  have htrim := t.trimmed line hline
  have hdelimiter := (t.plain line hline).isTestDelimiter
  have hdirective : Directive.ofLine? line = none := by
    obtain ⟨c, s, rfl⟩ := List.exists_cons_of_ne_nil (t.ne_nil line hline)
    exact Directive.ofLine?_cons_eq_none ((Text.trim_eq_self_iff.mp htrim).1 c rfl)
      (by simpa using t.noAt _ hline) s
  have hempty : line.isEmpty = false := List.isEmpty_eq_false_iff.mpr (t.ne_nil line hline)
  simp only [TestZone.roleOf, htrim, hempty, hdelimiter, hdirective, Bool.false_eq_true, if_false]

/-- The roles of the lines of a block. -/
def Tests.roles (t : Tests) : List TestZone.LineRole :=
  .title (String.ofList t.title) :: t.lines.map fun line => .test (String.ofList line)

theorem map_roleOf_print (t : Tests) : t.print.map TestZone.roleOf = t.roles := by
  rw [Tests.print, Tests.roles, List.map_cons, roleOf_titleLine]
  congr 1
  exact List.map_congr_left fun line hline => roleOf_testLine t hline

/-- Tests belong to the lines in front of the next title. -/
theorem blocksOf_tests (lines : List (List Char)) (roles : List TestZone.LineRole) :
    TestZone.blocksOf (lines.map (fun line => .test (String.ofList line)) ++ roles) =
      (lines.map String.ofList ++ (TestZone.blocksOf roles).1, (TestZone.blocksOf roles).2) := by
  induction lines with
  | nil => rfl
  | cons line lines ih => simp [TestZone.blocksOf, ih]

theorem blocksOf_roles (tests : List Tests) :
    TestZone.blocksOf (tests.flatMap Tests.roles) = ([], tests.map Tests.toBlock) := by
  induction tests with
  | nil => rfl
  | cons t tests ih =>
      rw [List.flatMap_cons, Tests.roles, List.cons_append, TestZone.blocksOf, blocksOf_tests, ih]
      simp [Tests.toBlock]

/-- The blocks of a printed test zone are those of its draft, and no line is an extraction. -/
theorem ofLines_testZone (d : Draft) :
    TestZone.ofLines d.testZone = ⟨d.tests.map Tests.toBlock, []⟩ := by
  -- the roles of a block are a title and tests
  have hextractions : TestZone.extractionsOf (d.tests.flatMap Tests.roles) = [] := by
    refine List.filterMap_eq_nil_iff.mpr fun role hrole => ?_
    obtain ⟨t, -, hrole⟩ := List.mem_flatMap.mp hrole
    rcases List.mem_cons.mp hrole with rfl | hrole
    · rfl
    · obtain ⟨line, -, rfl⟩ := List.mem_map.mp hrole
      rfl
  have hroles : d.testZone.map TestZone.roleOf = d.tests.flatMap Tests.roles := by
    simp only [testZone, List.map_flatMap, map_roleOf_print]
  rw [TestZone.ofLines, hroles, blocksOf_roles, hextractions]
  rfl

/-! ### Documents -/

/-- The lines of a request zone make up the unit of their draft, but for its body and tests. -/
theorem lines_requestZone (w : World) (index : Nat) (c : Compilation) (d : Draft) :
    Compilation.lines w index { name := String.ofList d.name } c
        (roles .awaitingMethod d.requestZone) =
      ({ d.toUnit with body := .none, tests := [] }, c) := by
  -- the lines of the body are collected behind, and add nothing to the unit here
  have hbody : ∀ u, Compilation.lines w index u c
      (d.body.toList.flatMap fun b => .blank :: b.lines.map .body) = (u, c) := by
    intro u
    cases d.body with
    | none => rfl
    | some b =>
        rw [Option.toList_some, List.flatMap_singleton]
        exact lines_body w index u c b.lines
  have hrest : ∀ u, Compilation.lines w index u c
      (.request ⟨d.method, String.ofList d.target⟩ :: (d.headers.map Header.role ++
        d.body.toList.flatMap fun b => .blank :: b.lines.map .body)) =
      ({ u with
          method := some d.method, target := String.ofList d.target
          headers := u.headers ++
            d.headers.map fun h => (String.ofList h.key, String.ofList h.value) }, c) := by
    intro u
    calc _ = Compilation.lines w index
              { u with method := some d.method, target := String.ofList d.target } c
              (d.headers.map Header.role ++
                d.body.toList.flatMap fun b => .blank :: b.lines.map .body) := rfl
      _ = _ := by rw [lines_append, lines_headers, hbody]
  rw [roles_requestZone]
  cases hid : d.id with
  | none =>
      rw [Option.toList_none, List.map_nil, List.nil_append, hrest]
      simp [toUnit, hid]
  | some i =>
      have hname : Compilation.lines w index { name := String.ofList d.name } c [i.role] =
          ({ name := String.ofList d.name, requestId := some (String.ofList i.text)
             directives := [.nameBinding (String.ofList i.text)] }, c) := rfl
      rw [Option.toList_some, List.map_singleton, lines_append, hname, hrest]
      simp [toUnit, hid]

/-- The lines of the body among the roles of a request zone. -/
theorem bodyLines_requestZone (d : Draft) :
    (roles .awaitingMethod d.requestZone).filterMap (·.body?) =
      d.body.toList.flatMap Body.lines := by
  have hid : (d.id.toList.map Id.role).filterMap (·.body?) = [] := by
    refine List.filterMap_eq_nil_iff.mpr fun role hrole => ?_
    obtain ⟨i, -, rfl⟩ := List.mem_map.mp hrole
    rfl
  have hheaders : (d.headers.map Header.role).filterMap (·.body?) = [] := by
    refine List.filterMap_eq_nil_iff.mpr fun role hrole => ?_
    obtain ⟨h, -, rfl⟩ := List.mem_map.mp hrole
    rfl
  have hbody : ∀ b : Body, (b.lines.map LineRole.body).filterMap (·.body?) = b.lines := by
    intro b
    rw [List.filterMap_map]
    exact List.filterMap_some
  rw [roles_requestZone, List.filterMap_append, hid, List.nil_append,
    List.filterMap_cons_none (by rfl), List.filterMap_append, hheaders, List.nil_append]
  cases d.body with
  | none => rfl
  | some b =>
      rw [Option.toList_some, List.flatMap_singleton, List.flatMap_singleton,
        List.filterMap_cons_none (by rfl), hbody]

/-- **Section of a printed draft**: its unit, with nothing reported and no variable changed. -/
theorem compileSection_print (w : World) (index : Nat) (d : Draft) (generators : Generators)
    (responses : NamedResponses) (diagnostics : List Diagnostic) :
    let c : Compilation := { vars := { generators, responses }, diagnostics }
    Compilation.compileSection w c ⟨index, .request, unlines d.print⟩ = (d.toUnit, c) := by
  intro c
  -- with nothing in the overrides and the store, no placeholder is filled
  have hfill : ∀ text, c.vars.substituteStatic text = text := fun text =>
    placeholder.fill_none text
  have hbody : bodyOf (d.body.toList.flatMap Body.lines) = d.toUnit.body := by
    cases hd : d.body with
    | none => simp [toUnit, hd, bodyOf]
    | some b => simp [toUnit, hd, bodyOf_lines]
  simp only [Compilation.compileSection, nameAndRest_print, scan_zones, ScriptScan.remaining,
    lines_zones, splitZones_print, ScriptScan.scripts, List.filter_nil, List.map_nil,
    List.foldl_nil, lines_requestZone, ofLines_testZone, bodyLines_requestZone, hbody, hfill]
  simp [toUnit]

end Draft

namespace Compilation

/-- Sections that each give a unit and change nothing give these units. -/
theorem sections_eq_of_forall {α : Type} (w : World) (c : Compilation) (xs : List α)
    (f : Nat → α → Section) (unit : α → RequestUnit)
    (h : ∀ index x, oneSection w c (f index x) = (some (unit x), c)) :
    sections w c (xs.mapIdx f) = (xs.map unit, c) := by
  induction xs generalizing f with
  | nil => rfl
  | cons x xs ih =>
      have hrest := ih (fun index => f (index + 1)) fun index => h (index + 1)
      simp [List.mapIdx_cons, sections, h, hrest]

end Compilation

/-- **Round trip**: compiling the document that drafts are printed to gives their units in order,
reports nothing and leaves the variables alone, whatever the generators and the named responses. -/
theorem Draft.compile_document (w : World) (generators : Generators) (responses : NamedResponses)
    (ds : List Draft) :
    Document.compile w { generators, responses } (document ds) =
      ({ units := ds.map toUnit }, { generators, responses }) := by
  have hsections : ∀ index (d : Draft),
      Compilation.oneSection w ⟨{ generators, responses }, []⟩
        ⟨index, .request, unlines d.print⟩ =
      (some d.toUnit, ⟨{ generators, responses }, []⟩) := by
    intro index d
    simp [Compilation.oneSection, compileSection_print, toUnit]
  rw [Document.compile, split_document,
    Compilation.sections_eq_of_forall w _ ds _ toUnit hsections]

/-! A request with a header and a test, as it is printed. -/

example :
    Draft.document [{
      name := "log in".toList
      name_fits := ⟨by decide, by decide, by simp [List.infix_cons_iff]⟩
      name_trimmed := by decide
      id := none
      method := .post
      target := "/login".toList
      target_ne_nil := by decide
      target_word := Text.isBlank_eq_false_of_any rfl
      target_noComment := by simp [List.infix_cons_iff]
      headers := [{
        key := "Accept".toList
        value := "text/html".toList
        key_ne_nil := by decide
        key_chars := List.all_eq_true.mp rfl
        value_fits := ⟨by decide, by decide, by simp [List.infix_cons_iff]⟩
        value_trimmed := by decide }]
      body := none
      tests := [{
        title := "answer".toList
        title_fits := ⟨by decide, by decide, by simp [List.infix_cons_iff]⟩
        title_trimmed := by decide
        lines := ["status == 200".toList]
        fits := by simpa using ⟨by decide, by decide, by simp [List.infix_cons_iff]⟩
        plain := by simpa using ⟨by decide, by decide, by decide, by decide⟩
        trimmed := by decide
        ne_nil := by decide
        noAt := by decide }] }] =
      "### log in\nPOST /login HTTP/1.1\nAccept: text/html\n#### answer\nstatus == 200" := by
  decide

end HttpSuite
