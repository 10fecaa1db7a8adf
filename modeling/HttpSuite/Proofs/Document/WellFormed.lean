/-
HttpSuite/Proofs/Document/WellFormed.lean

What compiled units are like, whatever the document.  Each part of a unit comes from one reader, and
what that reader lets through is said once:

    header        a key in front of a colon
    directive     a key in front of an equals sign, a path with its mark, or a name
    script        a trimmed text, or the path of a file
    body          lines, of which the first and the last are not blank, or the path of a file
    test          a trimmed line that is no delimiter and no extraction

What is done to the parts later on keeps this: filling placeholders changes the target and the texts
behind the keys.  The name of a unit is at each line that of the last directive with one
(`requestId_line`), and so it is at the end (`requestId_lines`).

Main result: every unit of every document is well formed (`compile_wellFormed`).
-/
import HttpSuite.Proofs.Document.Account
import Mathlib.Data.List.DropRight

namespace HttpSuite

open Text (trim unlines)

/-! ### Well-formed parts -/

/-- A key that stands in front of a mark: neither empty nor with a blank at an end, and without the
mark. -/
structure IsKey (mark : Char) (key : String) : Prop where
  ne_empty : key ≠ ""
  trimmed : trim key.toList = key.toList
  noMark : mark ∉ key.toList

/-- The path of a file: a word. -/
structure IsPath (path : String) : Prop where
  ne_empty : path ≠ ""
  noBlank : ∀ c ∈ path.toList, Text.isBlank c = false

/-- A line of tests. -/
structure IsTest (line : String) : Prop where
  not_blank : Text.isBlankText line.toList = false
  trimmed : trim line.toList = line.toList
  noDelimiter : ¬ "####".toList <+: line.toList
  noExtraction : ∀ key path, Directive.ofLine? line.toList ≠ some (.ok (.pathExtraction key path))

namespace Directive

/-- A directive with a key in front of an equals sign, and a path that starts with its mark; or one
with a name. -/
def WellFormed : Directive → Prop
  | nameBinding id => id ≠ ""
  | staticAssignment key _ => IsKey '=' key
  | pathExtraction key path => IsKey '=' key ∧ pathMark <+: path.toList

/-- The name that a directive binds. -/
def name? : Directive → Option String
  | nameBinding id => some id
  | _ => none

/-- The name that the last one of some directives to bind one binds. -/
def lastName? (ds : List Directive) : Option String := (ds.filterMap name?).getLast?

end Directive

/-- A script with a trimmed text; or with the path of a file, which has the tail of scripts if it
runs before the request. -/
def ScriptReference.WellFormed (phase : ScriptPhase) : ScriptReference → Prop
  | inline source => trim source.toList = source.toList
  | file path =>
    IsPath path ∧ (phase = .preRequest → ScriptScan.scriptTail <:+ path.toList)

/-- A body of lines, of which the first and the last are not blank; or the path of a file that is
not read as a script. -/
def RequestBody.WellFormed : RequestBody → Prop
  | none => True
  | inline text =>
    (∃ first ∈ (Text.lines text.toList).head?, Text.isBlankText first = false) ∧
      ∃ last ∈ (Text.lines text.toList).getLast?, Text.isBlankText last = false
  | file path =>
    IsPath path ∧ ¬ ScriptScan.scriptTail <:+ path.toList ∧ ¬ ScriptScan.openMark <+: path.toList

/-- A unit with a request line, all parts of which are well formed. -/
structure RequestUnit.WellFormed (u : RequestUnit) : Prop where
  method : u.method.isSome = true
  headers : ∀ header ∈ u.headers, IsKey ':' header.1
  requestId : u.requestId = Directive.lastName? u.directives
  requestId_ne_empty : u.requestId ≠ some ""
  directives : ∀ d ∈ u.directives, d.WellFormed
  preScripts : ∀ script ∈ u.preScripts, script.WellFormed .preRequest
  postScripts : ∀ script ∈ u.postScripts, script.WellFormed .postResponse
  body : u.body.WellFormed
  tests : ∀ line ∈ u.testLines, IsTest line

/-! ### Keys -/

/-- What stands in front of the first mark of a text is a key, once it is trimmed. -/
theorem IsKey.of_splitOnce? {mark : Char} {s before after : List Char}
    (h : Text.splitOnce? [mark] s = some (before, after)) (hne : trim before ≠ []) :
    IsKey mark (String.ofList (trim before)) where
  ne_empty := by simpa using hne
  trimmed := by rw [String.toList_ofList, Text.trim_trim]
  noMark := by
    rw [String.toList_ofList]
    exact fun hmem => Text.not_mem_of_splitOnce? h (Text.mem_of_mem_trim hmem)

theorem IsKey.of_header? {line : List Char} {key value : String}
    (h : Line.header? line = some (key, value)) : IsKey ':' key := by
  rw [Line.header?] at h
  split at h
  · simp at h
  · rename_i before after hsplit
    simp only at h
    split at h
    · simp at h
    · rename_i hne
      obtain ⟨rfl, -⟩ := by simpa using h
      exact .of_splitOnce? hsplit (by simpa using hne)

namespace Directive

theorem wellFormed_of_nameOf {rest : List Char} {d : Directive} (h : nameOf rest = .ok d) :
    d.WellFormed := by
  simp only [nameOf] at h
  split at h
  · simp at h
  · rename_i hne
    obtain rfl := by simpa using h
    simpa [WellFormed] using hne

theorem wellFormed_of_assignmentOf {rest : List Char} {d : Directive}
    (h : assignmentOf rest = .ok d) : d.WellFormed := by
  rw [assignmentOf] at h
  split at h
  · simp at h
  · rename_i before after hsplit
    simp only at h
    split at h
    · simp at h
    · rename_i hne
      have hkey : IsKey '=' (String.ofList (trim before)) :=
        .of_splitOnce? hsplit (by simpa using hne)
      -- the text behind the key is a path if it has the mark of one, and it is not changed then
      split at h
      · rename_i hmark
        obtain rfl := by simpa using h
        exact ⟨hkey, by simpa using Text.startsWith_iff.mp hmark⟩
      · obtain rfl := by simpa using h
        exact hkey

/-- A directive that is read is well formed. -/
theorem wellFormed_of_ofLine? {line : List Char} {d : Directive}
    (h : ofLine? line = some (.ok d)) : d.WellFormed := by
  rw [ofLine?] at h
  split at h
  · rename_i rest _
    obtain h := Option.some.inj h
    rw [ofBody] at h
    -- behind the at sign stands either the word for names or a key
    split at h
    · exact wellFormed_of_nameOf h
    · exact wellFormed_of_assignmentOf h
  · simp at h

end Directive

/-! ### Scripts -/

namespace ScriptScan

/-- A trimmed line that is read as a path behind a sign. -/
theorem fileReference?_eq_some_iff {line path : List Char} {phase : ScriptPhase} :
    fileReference? line = some (phase, path) ↔ (path ≠ [] ∧ ∀ c ∈ path, Text.isBlank c = false) ∧
      ∃ sign gap, phaseOf? sign = some phase ∧ gap ≠ [] ∧ Text.isBlankText gap = true ∧
        line = sign :: (gap ++ path) := by
  constructor
  · intro h
    unfold fileReference? at h
    split at h
    · cases h
    · rename_i sign rest
      split at h
      · cases h
      · rename_i hsign
        simp only at h
        split at h
        · rename_i hpath
          obtain ⟨rfl, rfl⟩ := by simpa using h
          simp only [Bool.and_eq_true, Bool.not_eq_true', List.isEmpty_eq_false_iff,
            List.all_eq_true, decide_eq_true_eq] at hpath
          obtain ⟨⟨hless, hne⟩, hword⟩ := hpath
          refine ⟨⟨hne, hword⟩, sign, rest.takeWhile Text.isBlank, hsign, ?_, List.all_takeWhile, ?_⟩
          · -- something has been taken away in front of the path
            intro hnil
            have hall := List.takeWhile_append_dropWhile (p := Text.isBlank) (l := rest)
            rw [hnil, List.nil_append] at hall
            rw [Text.trimStart, hall] at hless
            exact Nat.lt_irrefl _ hless
          · rw [Text.trimStart, List.takeWhile_append_dropWhile]
        · cases h
  · rintro ⟨⟨hne, hword⟩, sign, gap, hsign, hgap, hblank, rfl⟩
    obtain ⟨c, path, rfl⟩ := List.exists_cons_of_ne_nil hne
    have hstart : Text.trimStart (gap ++ c :: path) = c :: path := by
      rw [Text.trimStart, List.dropWhile_append_of_pos (by simpa [Text.isBlankText] using hblank)]
      exact Text.trimStart_cons_of_not_blank (hword c List.mem_cons_self)
    have hlength : 0 < gap.length := List.length_pos_iff.mpr hgap
    simp only [fileReference?, hsign, hstart]
    rw [if_pos]
    simpa [hlength] using hword

/-- What stands behind a sign is the path of a file. -/
theorem isPath_of_fileReference? {line path : List Char} {phase : ScriptPhase}
    (h : fileReference? line = some (phase, path)) : IsPath (String.ofList path) := by
  obtain ⟨⟨hne, hword⟩, -⟩ := fileReference?_eq_some_iff.mp h
  exact ⟨by simpa using hne, by simpa using hword⟩

/-- The script of some lines is well formed. -/
theorem IsScript.wellFormed {lines : List (List Char)} {block : ScriptBlock}
    (h : IsScript lines block) : block.reference.WellFormed block.phase := by
  have hinline : ∀ phase source,
      (inlineBlock phase source).reference.WellFormed (inlineBlock phase source).phase := by
    intro phase source
    show trim (String.ofList (trim source)).toList = (String.ofList (trim source)).toList
    rw [String.toList_ofList, Text.trim_trim]
  cases h with
  | oneLine => exact hinline _ _
  | block => exact hinline _ _
  | file _ hfile =>
      obtain ⟨hreference, htail⟩ := Option.filter_eq_some_iff.mp hfile
      refine ⟨isPath_of_fileReference? hreference, ?_⟩
      -- only after a response may the tail be any
      rintro ⟨⟩
      simpa [Text.endsWith_iff] using htail

/-- The scripts of a scan are those of lines. -/
theorem SetAside.exists_isScript {lines kept : List (List Char)} {blocks : List ScriptBlock}
    (h : SetAside lines blocks kept) : ∀ block ∈ blocks, ∃ ls, IsScript ls block := by
  induction h with
  | nil => simp
  | kept _ _ ih => exact ih
  | script hscript _ ih => exact List.forall_mem_cons.mpr ⟨⟨_, hscript⟩, ih⟩

end ScriptScan

theorem Section.wellFormed_scripts (s : Section) (phase : ScriptPhase) :
    ∀ script ∈ s.scan.scripts phase, script.WellFormed phase := by
  intro script hscript
  obtain ⟨block, hblock, rfl⟩ := List.mem_map.mp hscript
  obtain ⟨hmem, hphase⟩ := List.mem_filter.mp hblock
  obtain ⟨ls, hls⟩ := (ScriptScan.setAside_ofLines 0 _).exists_isScript block hmem
  have hwell := hls.wellFormed
  rwa [of_decide_eq_true hphase] at hwell

/-! ### Bodies -/

/-- A body of lines, of which the first and the last are not blank, is well formed. -/
theorem RequestBody.wellFormed_inline {lines : List (List Char)} (hne : lines ≠ [])
    (noFeed : ∀ l ∈ lines, '\n' ∉ l) (hfirst : Text.isBlankText (lines.head hne) = false)
    (hlast : Text.isBlankText (lines.getLast hne) = false) :
    (RequestBody.inline (String.ofList (unlines lines))).WellFormed := by
  obtain ⟨front, last, rfl⟩ : ∃ front last, lines = front ++ [last] :=
    ⟨_, _, (List.dropLast_concat_getLast hne).symm⟩
  rw [List.getLast_append_singleton] at hlast
  have hnil : last ≠ [] := by
    rintro rfl
    exact absurd hlast (by decide)
  rw [WellFormed, String.toList_ofList, Text.lines_unlines_concat noFeed hnil]
  refine ⟨?_, last, by simp, hlast⟩
  -- the first line is the last one, or has lost no more than a carriage return
  cases front with
  | nil => exact ⟨last, rfl, hlast⟩
  | cons first front => exact ⟨Text.dropReturn first, rfl, by rwa [Text.isBlankText_dropReturn]⟩

/-- A path that is read as that of a body is well formed. -/
theorem ScriptScan.wellFormed_of_bodyFile? {text : List Char} {path : String}
    (h : bodyFile? text = some path) : (RequestBody.file path).WellFormed := by
  rw [bodyFile?] at h
  split at h
  · rename_i path' hreference
    split at h
    · simp at h
    · rename_i hno
      obtain rfl : String.ofList path' = path := by simpa using h
      simp only [Bool.or_eq_true, not_or, Text.endsWith_iff, Text.startsWith_iff] at hno
      rw [RequestBody.WellFormed, String.toList_ofList]
      exact ⟨isPath_of_fileReference? hreference, hno⟩
  · simp at h

namespace RequestZone

/-- A body is well formed, whatever the lines that it is made of. -/
theorem wellFormed_bodyOf {lines : List (List Char)} (noFeed : ∀ l ∈ lines, '\n' ∉ l) :
    (bodyOf lines).WellFormed := by
  have hkept : ((lines.dropWhile Text.isBlankText).reverse.dropWhile Text.isBlankText).reverse =
      (lines.dropWhile Text.isBlankText).rdropWhile Text.isBlankText := rfl
  -- no blank line is left in front, and then none at the end
  have hfront := List.rdropWhile_prefix Text.isBlankText (l := lines.dropWhile Text.isBlankText)
  have hlast := List.rdropWhile_last_not Text.isBlankText (lines.dropWhile Text.isBlankText)
  simp only [bodyOf, hkept]
  generalize (lines.dropWhile Text.isBlankText).rdropWhile Text.isBlankText = kept
    at hfront hlast ⊢
  split
  · trivial
  · rename_i hne
    have hne : kept ≠ [] := by simpa using hne
    have hfirst : Text.isBlankText (kept.head hne) = false := by
      rw [hfront.head hne]
      simpa using List.head_dropWhile_not Text.isBlankText (hfront.ne_nil hne)
    split
    · rename_i path hfile
      exact ScriptScan.wellFormed_of_bodyFile? hfile
    · refine RequestBody.wellFormed_inline hne (fun l hl => ?_) hfirst (by simpa using hlast hne)
      exact noFeed l ((List.dropWhile_sublist Text.isBlankText).subset (hfront.subset hl))

/-- A role is that of a line. -/
theorem exists_reads_of_mem_roles {mode : Mode} {lines : List (List Char)} {role : LineRole}
    (h : role ∈ roles mode lines) : ∃ line ∈ lines, Reads line role := by
  induction lines generalizing mode with
  | nil => simp [roles] at h
  | cons line lines ih =>
      rcases List.mem_cons.mp h with rfl | h
      · exact ⟨line, List.mem_cons_self, reads_roleOf mode line⟩
      · obtain ⟨line', hmem, hread⟩ := ih h
        exact ⟨line', List.mem_cons_of_mem line hmem, hread⟩

end RequestZone

namespace Section

variable (s : Section)

/-- The lines of the body are lines of the section. -/
theorem newline_not_mem_body : ∀ l ∈ s.roles.filterMap (·.body?), '\n' ∉ l := by
  intro l hl
  obtain ⟨role, hrole, hbody⟩ := List.mem_filterMap.mp hl
  obtain ⟨line, hline, hread⟩ := RequestZone.exists_reads_of_mem_roles hrole
  cases hread with
  | body =>
      obtain rfl := by simpa [RequestZone.LineRole.body?] using hbody
      refine Text.newline_not_mem_lines (s := s.scan.remaining) ?_
      rw [zones, Compilation.splitZones, List.span_eq_takeWhile_dropWhile] at hline
      exact (List.takeWhile_sublist _).subset hline
  | _ => simp [RequestZone.LineRole.body?] at hbody

/-- The headers of a section have keys. -/
theorem isKey_headers : ∀ header ∈ s.roles.filterMap (·.header?), IsKey ':' header.1 := by
  intro header hheader
  obtain ⟨role, hrole, hheader⟩ := List.mem_filterMap.mp hheader
  obtain ⟨line, -, hread⟩ := RequestZone.exists_reads_of_mem_roles hrole
  cases hread with
  | header hread =>
      obtain rfl := by simpa [RequestZone.LineRole.header?] using hheader
      exact .of_header? hread
  | _ => simp [RequestZone.LineRole.header?] at hheader

/-- The directives in front of the tests are well formed. -/
theorem wellFormed_directives : ∀ d ∈ s.roles.filterMap (·.directive?), d.WellFormed := by
  intro d hd
  obtain ⟨role, hrole, hd⟩ := List.mem_filterMap.mp hd
  obtain ⟨line, -, hread⟩ := RequestZone.exists_reads_of_mem_roles hrole
  cases hread with
  | @directive d' hread =>
      cases d' with
      | ok d' =>
          obtain rfl := by simpa [RequestZone.LineRole.directive?] using hd
          exact Directive.wellFormed_of_ofLine? hread
      | error cause => simp [RequestZone.LineRole.directive?] at hd
  | _ => simp [RequestZone.LineRole.directive?] at hd

end Section

/-! ### Tests -/

namespace TestZone

/-- A line that is read as a test is one. -/
theorem isTest_of_roleOf {line : List Char} {text : String} (h : roleOf line = .test text) :
    IsTest text := by
  simp only [roleOf] at h
  split at h
  · simp at h
  · rename_i hne
    split at h
    · simp at h
    · rename_i hdelimiter
      split at h
      · simp at h
      · rename_i hno
        obtain rfl : String.ofList (trim line) = text := by simpa using h
        have htrim := Text.trim_trim line
        rw [Line.isTestDelimiter, Text.trimStart_eq_self htrim, Text.startsWith_iff] at hdelimiter
        have htext : (String.ofList (trim line)).toList = trim line := String.toList_ofList
        constructor
        · rw [htext, ← Bool.not_eq_true, ← Text.trim_eq_nil_iff, htrim]
          simpa using hne
        · rw [htext, htrim]
        · rwa [htext]
        · rwa [htext]

/-- The lines of blocks are lines that are read as tests. -/
theorem mem_of_mem_blocksOf {roles : List LineRole} {line : String}
    (h : line ∈ (blocksOf roles).1 ∨ ∃ b ∈ (blocksOf roles).2, line ∈ b.lines) :
    LineRole.test line ∈ roles := by
  induction roles with
  | nil => simp [blocksOf] at h
  | cons role roles ih =>
      cases role with
      | blank => exact List.mem_cons_of_mem _ (ih h)
      | extraction d => exact List.mem_cons_of_mem _ (ih h)
      | title text =>
          refine List.mem_cons_of_mem _ (ih ?_)
          simpa [blocksOf] using h
      | test text =>
          simp only [blocksOf, List.mem_cons] at h
          rcases h with (rfl | h) | h
          · exact List.mem_cons_self
          · exact List.mem_cons_of_mem _ (ih (.inl h))
          · exact List.mem_cons_of_mem _ (ih (.inr h))

variable (lines : List (List Char))

/-- The lines in blocks are tests. -/
theorem isTest_blocks : ∀ line ∈ (ofLines lines).blocks.flatMap (·.lines), IsTest line := by
  intro line hline
  have htest : LineRole.test line ∈ lines.map roleOf := by
    refine mem_of_mem_blocksOf ?_
    simp only [ofLines] at hline
    split at hline
    · exact .inr (List.mem_flatMap.mp hline)
    · rw [List.flatMap_cons, List.mem_append] at hline
      exact hline.imp_right List.mem_flatMap.mp
  obtain ⟨l, -, hl⟩ := List.mem_map.mp htest
  exact isTest_of_roleOf hl

/-- The extractions among tests are well formed, and bind no name. -/
theorem wellFormed_extractions :
    ∀ d ∈ (ofLines lines).extractions, d.WellFormed ∧ d.name? = none := by
  intro d hd
  obtain ⟨line, -, hline⟩ := exists_of_mem_extractions hd
  obtain ⟨key, path, rfl, hread⟩ := exists_of_roleOf hline
  exact ⟨Directive.wellFormed_of_ofLine? hread, rfl⟩

end TestZone

/-! ### Units -/

theorem VariableState.wellFormed_carryOutAll (w : World) (v : VariableState) {ds : List Directive}
    (h : ∀ d ∈ ds, d.WellFormed) : ∀ d ∈ (v.carryOutAll w ds).1, d.WellFormed := by
  induction ds generalizing v with
  | nil => simp [carryOutAll]
  | cons d ds ih =>
      obtain ⟨hd, hds⟩ := List.forall_mem_cons.mp h
      cases d with
      | staticAssignment key value => exact List.forall_mem_cons.mpr ⟨hd, ih _ hds⟩
      | nameBinding id => exact List.forall_mem_cons.mpr ⟨hd, ih _ hds⟩
      | pathExtraction key path => exact List.forall_mem_cons.mpr ⟨hd, ih _ hds⟩

namespace Compilation

variable (w : World)

open Directive (name? lastName?)

theorem lastName?_append_of_none (ds : List Directive) {ds' : List Directive}
    (h : ∀ d ∈ ds', name? d = none) : lastName? (ds ++ ds') = lastName? ds := by
  rw [lastName?, List.filterMap_append, List.filterMap_eq_nil_iff.mpr h, List.append_nil]
  rfl

/-- **One line**: a unit with the name that its last directive binds keeps such a name. -/
theorem requestId_line (index : Nat) {u : RequestUnit} (c : Compilation)
    (role : RequestZone.LineRole) (h : u.requestId = lastName? u.directives) :
    (line w index u c role).1.requestId = lastName? (line w index u c role).1.directives := by
  cases role with
  | directive d =>
      cases d with
      | error cause => exact h
      | ok d =>
          cases d with
          | nameBinding id =>
              -- the name becomes that of the unit and the last one at once
              simp [line, directive, carryOut, addDirective, lastName?, name?]
          | staticAssignment key value =>
              exact h.trans (lastName?_append_of_none _ (by simp [name?])).symm
          | pathExtraction key path =>
              exact h.trans (lastName?_append_of_none _ (by simp [name?])).symm
  | _ => exact h

/-- The lines of a request keep it so. -/
theorem requestId_lines (index : Nat) {u : RequestUnit} (c : Compilation)
    (roles : List RequestZone.LineRole) (h : u.requestId = lastName? u.directives) :
    (lines w index u c roles).1.requestId = lastName? (lines w index u c roles).1.directives := by
  induction roles generalizing u c with
  | nil => exact h
  | cons role roles ih => exact ih _ (requestId_line w index c role h)

variable (c : Compilation) (s : Section)

/-- The directives of a section are well formed. -/
theorem wellFormed_directives : ∀ d ∈ (compileSection w c s).1.directives, d.WellFormed := by
  intro d hd
  rw [(requestAccount w s c).directives] at hd
  rcases List.mem_append.mp hd with hd | hd
  · exact c.vars.wellFormed_carryOutAll w s.wellFormed_directives d hd
  · exact (TestZone.wellFormed_extractions s.zones.2 d hd).1

theorem requestId_compileSection :
    (compileSection w c s).1.requestId = lastName? (compileSection w c s).1.directives := by
  have hlines := requestId_lines w s.index (c.opened s) s.roles (u := startOf s) rfl
  -- the extractions among the tests come behind the directives, and bind no name
  rw [compileSection_eq]
  refine hlines.trans (lastName?_append_of_none _ fun d hd => ?_).symm
  exact (TestZone.wellFormed_extractions s.zones.2 d hd).2

theorem wellFormed_compileSection (hmethod : (compileSection w c s).1.method.isSome = true) :
    (compileSection w c s).1.WellFormed where
  method := hmethod
  headers := by
    rw [(requestAccount w s c).headers]
    intro header hheader
    obtain ⟨header, hmem, rfl⟩ := List.mem_map.mp hheader
    exact s.isKey_headers header hmem
  requestId := requestId_compileSection w c s
  requestId_ne_empty := by
    -- the name is that of a directive, and those are well formed
    rw [requestId_compileSection]
    intro hname
    obtain ⟨d, hd, hid⟩ := List.mem_filterMap.mp (List.mem_of_getLast? hname)
    have hwell := wellFormed_directives w c s d hd
    cases d with
    | nameBinding id => exact hwell (by simpa [name?] using hid)
    | staticAssignment key value => simp [name?] at hid
    | pathExtraction key path => simp [name?] at hid
  directives := wellFormed_directives w c s
  preScripts := by
    rw [(requestAccount w s c).preScripts]
    exact s.wellFormed_scripts .preRequest
  postScripts := by
    rw [(requestAccount w s c).postScripts]
    exact s.wellFormed_scripts .postResponse
  body := by
    rw [(requestAccount w s c).body]
    exact RequestZone.wellFormed_bodyOf s.newline_not_mem_body
  tests := by
    rw [compileSection_eq]
    exact TestZone.isTest_blocks s.zones.2

/-- A section gives the unit that it is compiled to, if there is a request line. -/
theorem eq_compileSection_of_oneSection {u : RequestUnit} (h : (oneSection w c s).1 = some u) :
    u = (compileSection w c s).1 ∧ u.method.isSome = true := by
  rcases hkind : s.kind with - | -
  · rcases hcompile : compileSection w c s with ⟨u', c'⟩
    simp only [oneSection, hkind, hcompile] at h
    split at h
    · simp at h
    · rename_i hmethod
      obtain rfl : u' = u := by simpa using h
      exact ⟨rfl, by simpa [Option.isSome_iff_ne_none] using hmethod⟩
  · simp [oneSection, hkind] at h

/-- A unit of a document is that of a section with a request line. -/
theorem exists_compileSection_of_mem {u : RequestUnit} {ss : List Section}
    (h : u ∈ (sections w c ss).1) :
    ∃ c s, u = (compileSection w c s).1 ∧ u.method.isSome = true := by
  induction ss generalizing c with
  | nil => simp [sections] at h
  | cons s ss ih =>
      rcases List.mem_append.mp h with h | h
      · exact ⟨c, s, eq_compileSection_of_oneSection w c s (Option.mem_toList.mp h)⟩
      · exact ih _ h

end Compilation

/-- **Well-formed units**: every unit that a document is compiled to is well formed, whatever the
text of the document and the variables before it. -/
theorem Document.compile_wellFormed (w : World) (st : VariableState) (content : String) :
    ∀ u ∈ (Document.compile w st content).1.units, u.WellFormed := by
  intro u hu
  obtain ⟨c, s, rfl, hmethod⟩ := Compilation.exists_compileSection_of_mem w _ hu
  exact Compilation.wellFormed_compileSection w c s hmethod

/-- A request with a name, a script, a header, a body, an extraction and a test. -/
theorem Document.compile_wellFormed_named :
    let document := (Document.compile {} {}
      "@name a\n< p.js\nGET /\nA : b\n\n hi\n\n####\n@k = $.v\n ok").1
    let u : RequestUnit := {
      method := some .get
      target := "/"
      headers := [("A", "b")]
      body := .inline " hi"
      requestId := some "a"
      preScripts := [.file "p.js"]
      directives := [.nameBinding "a", .pathExtraction "k" "$.v"]
      tests := [⟨"", ["ok"]⟩] }
    document.units = [u] ∧ u.WellFormed := by
  intro document u
  have hunits : document.units = [u] := by decide +kernel
  have hmem : u ∈ document.units := by
    rw [hunits]
    exact List.mem_singleton_self u
  exact ⟨hunits, Document.compile_wellFormed {} {} _ u hmem⟩

end HttpSuite
