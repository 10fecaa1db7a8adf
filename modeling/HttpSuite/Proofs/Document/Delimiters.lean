/-
HttpSuite/Proofs/Document/Delimiters.lean

The lines that begin sections and tests.  Both start with number signs, three of them for a section
and four for tests, and two readers look at them.  The first one cuts a document into sections
(`Section.split`), the second one takes a section apart into its name, its request and its tests
(`compileSection`).  The second one does not ask again which line begins the section, it takes three
number signs off the first line if they are there:

    ### name       begins a section, and is the name of it
    #### title     begins none, and still is the name `# title` of a section that it comes first in

On all other lines the readers agree.  The first title outside of scripts ends the request, so that
nothing from there on is read for it, and is the title of the first tests (`startsTests_of_free`).
And only the first section of a document can start with a title, because the others start where the
document is cut (`opensWithTests_of_mem_tail`).

Main result: the readers agree on a document exactly when it does not start with a title
(`split_delimitersAgree_iff`).
-/
import HttpSuite.Proofs.Document.Account
import HttpSuite.Proofs.Document.Blocks
import HttpSuite.Proofs.Document.Separation

namespace HttpSuite

open RequestZone.LineRole (request? query? header? directive?)
open Text (trim trimStart unlines dropReturn linesOfPieces)

/-! ### Delimiters -/

namespace Line

/-- A line that begins a section begins no tests. -/
theorem isTestDelimiter_of_isSectionDelimiter {line : List Char}
    (h : isSectionDelimiter line = true) : isTestDelimiter line = false := by
  rw [isSectionDelimiter, Bool.and_eq_true, Bool.not_eq_true'] at h
  exact h.2

/-- What starts with three number signs begins a section or tests. -/
theorem startsWith_delimiter (line : List Char) :
    Text.startsWith "###".toList (trimStart line) =
      (isSectionDelimiter line || isTestDelimiter line) := by
  rw [isSectionDelimiter, isTestDelimiter]
  cases htest : Text.startsWith "####".toList (trimStart line) with
  | true =>
      have hlong : "####".toList <+: trimStart line := Text.startsWith_iff.mp htest
      have hshort : "###".toList <+: "####".toList := ⟨['#'], rfl⟩
      rw [Text.startsWith_iff.mpr (hshort.trans hlong)]
      rfl
  | false => simp

theorem isTestDelimiter_dropReturn (line : List Char) :
    isTestDelimiter (dropReturn line) = isTestDelimiter line := by
  rw [← isTestDelimiter_trim, Text.trim_dropReturn, isTestDelimiter_trim]

/-- Pieces start with a title exactly if their lines do. -/
theorem head?_linesOfPieces_any (ps : List (List Char)) :
    (linesOfPieces ps).head?.any isTestDelimiter = ps.head?.any isTestDelimiter := by
  fun_cases linesOfPieces ps with
  | case1 => rfl
  | case2 last h =>
      obtain rfl : last = [] := by simpa using h
      rfl
  | case3 last h => rfl
  | case4 piece next rest => exact isTestDelimiter_dropReturn piece

end Line

namespace TestZone

/-- Blank lines, and blanks at the ends of others, do not matter to tests. -/
theorem ofLines_content (lines : List (List Char)) :
    ofLines (Text.content lines) = ofLines lines := by
  rw [ofLines_eq_foldl, ofLines_eq_foldl]
  generalize (⟨[], []⟩ : TestZone) = z
  induction lines generalizing z with
  | nil => rfl
  | cons line lines ih =>
      by_cases hblank : trim line = []
      · have hrole : roleOf line = .blank := by simp [roleOf, hblank]
        rw [Text.content_cons_of_blank hblank, List.foldl_cons, hrole]
        exact ih z
      · have hrole : roleOf (trim line) = roleOf line := by
          rw [roleOf, roleOf, Text.trim_trim]
        rw [Text.content_cons_of_ne_nil hblank, List.foldl_cons, List.foldl_cons, hrole]
        exact ih _

/-- A title at the start is that of the first block. -/
theorem head?_blocks_ofLines {title : List Char} (h : Line.isTestDelimiter title = true)
    (back : List (List Char)) :
    (ofLines (title :: back)).blocks.head?.map (·.title) = some (titleOf (trim title)) := by
  simp [ofLines, blocksOf, roleOf_of_isTestDelimiter h]

end TestZone

/-! ### Sections -/

namespace Section

/-- Whether the first line of a section begins tests. -/
def opensWithTests (s : Section) : Bool := (Text.lines s.text).head?.any Line.isTestDelimiter

/-- The lines of a section without the line that begins it, if there is one. -/
def below (s : Section) : List (List Char) :=
  match Text.lines s.text with
  | [] => []
  | first :: rest => if Line.isSectionDelimiter first then rest else first :: rest

/-- Those of them that belong to no script. -/
def free (s : Section) : List (List Char) := (ScriptScan.ofText (unlines s.below)).kept

/-- `MakesRequest w v roles u`: the request of a unit is what lines with these roles make of the
variables `v`. -/
structure MakesRequest (w : World) (v : VariableState) (roles : List RequestZone.LineRole)
    (u : RequestUnit) : Prop where
  method : u.method.toList = (roles.filterMap request?).map (·.method)
  target : u.target = (v.carryOutAll w (roles.filterMap directive?)).2.substituteStatic
    (String.join ((roles.filterMap request?).map (·.target) ++ roles.filterMap query?))
  headers : u.headers = (roles.filterMap header?).map fun h =>
    (h.1, (v.carryOutAll w (roles.filterMap directive?)).2.substituteStatic h.2)
  body : u.body = RequestZone.bodyOf (roles.filterMap (·.body?))

/-- `StartsTests w v front title back u`: in a unit, the lines in front of a title make the request,
and the title and the lines behind it make the tests. -/
structure StartsTests (w : World) (v : VariableState) (front : List (List Char))
    (title : List Char) (back : List (List Char)) (u : RequestUnit) : Prop where
  request : MakesRequest w v (RequestZone.roles .awaitingMethod front) u
  directives : u.directives = (v.carryOutAll w
    ((RequestZone.roles .awaitingMethod front).filterMap directive?)).1 ++
      (TestZone.ofLines (title :: back)).extractions
  tests : u.tests = (TestZone.ofLines (title :: back)).blocks
  title : u.tests.head?.map (·.title) = some (TestZone.titleOf (trim title))

/-- `s.DelimitersAgree`: what takes a section apart sees the delimiters that cut the document. -/
structure DelimitersAgree (s : Section) : Prop where
  /-- A first line that does not begin the section is not taken for its name. -/
  name : ∀ first rest, Text.lines s.text = first :: rest → Line.isSectionDelimiter first = false →
    Compilation.nameAndRest s.text = ("", first :: rest)
  /-- The first title outside of scripts starts the tests, wherever it stands.  What is kept of the
  lines in front of it is read as lines again, without a carriage return at the end. -/
  tests : ∀ front title back, s.free = front ++ title :: back →
    (∀ l ∈ front, Line.isTestDelimiter l = false) → Line.isTestDelimiter title = true →
    ∀ w c, StartsTests w c.vars (front.map dropReturn) title back
      (Compilation.compileSection w c s).1

/-! ### Where they agree -/

theorem makesRequest_compileSection (w : World) (c : Compilation) (s : Section) :
    MakesRequest w c.vars s.roles (Compilation.compileSection w c s).1 := by
  have haccount := Compilation.requestAccount w s c
  have htarget := haccount.target
  have hheaders := haccount.headers
  rw [haccount.vars] at htarget hheaders
  exact ⟨haccount.method, htarget, hheaders, haccount.body⟩

variable {s : Section}

/-- A first line that begins no tests is taken for the name exactly if it begins the section. -/
theorem unnamed_eq_below (h : s.opensWithTests = false) : s.unnamed = s.below := by
  rw [opensWithTests] at h
  rw [unnamed, below]
  cases hlines : Text.lines s.text with
  | nil => rfl
  | cons first rest =>
      have hfirst : Line.isTestDelimiter first = false := by simpa [hlines] using h
      simp only [Line.startsWith_delimiter, hfirst, Bool.or_false]

/-- The lines outside of scripts are cut at their first title. -/
theorem zones_of_free (h : s.opensWithTests = false) {front back : List (List Char)}
    {title : List Char} (hfree : s.free = front ++ title :: back)
    (hfront : ∀ l ∈ front, Line.isTestDelimiter l = false)
    (htitle : Line.isTestDelimiter title = true) :
    s.zones = (front.map dropReturn, linesOfPieces (title :: back)) := by
  have hlines : Text.lines s.scan.remaining =
      front.map dropReturn ++ linesOfPieces (title :: back) := by
    rw [scan, unnamed_eq_below h, ScriptScan.lines_remaining, ← Text.linesOfPieces_append_cons]
    exact congrArg linesOfPieces hfree
  have hplain : ∀ l ∈ front.map dropReturn, Line.isTestDelimiter l = false := by
    intro l hl
    obtain ⟨l', hl', rfl⟩ := List.mem_map.mp hl
    rw [Line.isTestDelimiter_dropReturn, hfront l' hl']
  -- what is read of the title is a title
  have hhead := Line.head?_linesOfPieces_any (title :: back)
  have hback : (linesOfPieces (title :: back)).head?.all Line.isTestDelimiter = true := by
    cases hfirst : (linesOfPieces (title :: back)).head? with
    | none => rfl
    | some first => simpa [hfirst, htitle] using hhead
  rw [zones, hlines, Compilation.splitZones_append hplain hback]

/-- **Tests**: the first title outside of scripts starts the tests. -/
theorem startsTests_of_free (h : s.opensWithTests = false) {front back : List (List Char)}
    {title : List Char} (hfree : s.free = front ++ title :: back)
    (hfront : ∀ l ∈ front, Line.isTestDelimiter l = false)
    (htitle : Line.isTestDelimiter title = true) (w : World) (c : Compilation) :
    StartsTests w c.vars (front.map dropReturn) title back
      (Compilation.compileSection w c s).1 := by
  have hzones := zones_of_free h hfree hfront htitle
  have hroles : s.roles = RequestZone.roles .awaitingMethod (front.map dropReturn) := by
    rw [roles, hzones]
  have htests : TestZone.ofLines s.zones.2 = TestZone.ofLines (title :: back) := by
    rw [hzones, ← TestZone.ofLines_content, Text.content_linesOfPieces, TestZone.ofLines_content]
  have hblocks : (Compilation.compileSection w c s).1.tests =
      (TestZone.ofLines (title :: back)).blocks := by
    rw [Compilation.compileSection_eq, htests]
  exact {
    request := hroles ▸ makesRequest_compileSection w c s
    directives := by rw [(Compilation.requestAccount w s c).directives, hroles, htests]
    tests := hblocks
    title := by rw [hblocks, TestZone.head?_blocks_ofLines htitle]
  }

/-- **One section**: the readers agree on a section that does not start with a title, and on no
other one. -/
theorem delimitersAgree_iff (s : Section) : s.DelimitersAgree ↔ s.opensWithTests = false := by
  constructor
  · intro hagree
    rw [opensWithTests]
    rcases hlines : Text.lines s.text with - | ⟨first, rest⟩
    · rfl
    · rw [List.head?_cons, Option.any_some, ← Bool.not_eq_true]
      intro htest
      -- the title would be set aside for the name
      have hno : Line.isSectionDelimiter first = false := by
        rw [← Bool.not_eq_true]
        intro hsection
        rw [Line.isTestDelimiter_of_isSectionDelimiter hsection] at htest
        cases htest
      have hall : s.unnamed = first :: rest := by
        rw [← s.nameAndRest_snd, hagree.name first rest hlines hno]
      have hrest : s.unnamed = rest := by
        rw [unnamed, hlines]
        exact if_pos (by rw [Line.startsWith_delimiter, htest, Bool.or_true])
      exact List.cons_ne_self first rest (hall.symm.trans hrest)
  · intro h
    refine ⟨fun first rest hlines hsection => ?_, fun front title back hfree hfront htitle w c =>
      startsTests_of_free h hfree hfront htitle w c⟩
    have htest : Line.isTestDelimiter first = false := by simpa [opensWithTests, hlines] using h
    have hmark : Text.startsWith "###".toList (trimStart first) = false := by
      rw [Line.startsWith_delimiter, hsection, htest]
      rfl
    rw [Text.startsWith, Option.isSome_eq_false_iff, Option.isNone_iff_eq_none] at hmark
    rw [Compilation.nameAndRest, hlines]
    simp only [hmark]

/-! ### Documents -/

/-- Behind the first piece, pieces start with the line that they were cut at. -/
theorem exists_delimiter_of_mem_chunks {lines piece : List (List Char)}
    (h : piece ∈ (chunks lines).2) :
    ∃ first rest, piece = first :: rest ∧ Line.isSectionDelimiter first = true := by
  induction lines with
  | nil => simp [chunks] at h
  | cons line lines ih =>
      cases hline : Line.isSectionDelimiter line with
      | true =>
          have hmem : piece = line :: (chunks lines).1 ∨ piece ∈ (chunks lines).2 := by
            simpa [chunks, hline] using h
          rcases hmem with rfl | hmem
          · exact ⟨line, (chunks lines).1, rfl, hline⟩
          · exact ih hmem
      | false => exact ih (by simpa [chunks, hline] using h)

/-- The lines of a piece start with a title exactly if the piece does. -/
theorem opensWithTests_unlines (index : Nat) (kind : SectionKind) {piece : List (List Char)}
    (noFeed : ∀ l ∈ piece, '\n' ∉ l) :
    opensWithTests ⟨index, kind, unlines piece⟩ = piece.head?.any Line.isTestDelimiter := by
  rw [opensWithTests, Text.lines_unlines_eq_linesOfPieces noFeed, Line.head?_linesOfPieces_any]

/-- Only the first section of a document can start with a title. -/
theorem opensWithTests_of_mem_tail {content : List Char} {s : Section}
    (h : s ∈ (split content).tail) : s.opensWithTests = false := by
  generalize hkept : (Text.lines (stripComments content)).filter (!Line.isComment ·) = kept
  generalize hpieces : ((chunks kept).1 :: (chunks kept).2).filter
    (·.any (!Text.isBlankText ·)) = pieces
  have hsplit : split content =
      pieces.mapIdx fun index lines => ⟨index, kindOf lines, unlines lines⟩ := by
    simp only [split, hkept, hpieces]
  -- a piece behind another one is not the first one of all
  have htail : pieces.tail.Sublist (chunks kept).2 := hpieces ▸ List.filter_sublist.tail
  obtain ⟨index, piece, hpiece, rfl⟩ : ∃ index piece, piece ∈ (chunks kept).2 ∧
      s = ⟨index, kindOf piece, unlines piece⟩ := by
    rw [hsplit] at h
    cases pieces with
    | nil => simp at h
    | cons first pieces =>
        rw [List.mapIdx_cons, List.tail_cons, List.mem_mapIdx] at h
        obtain ⟨index, hindex, rfl⟩ := h
        exact ⟨index + 1, pieces[index], htail.subset (List.getElem_mem hindex), rfl⟩
  have hfeed : ∀ l ∈ piece, '\n' ∉ l := by
    intro l hl
    have hmem : l ∈ kept := by
      rw [← flatten_chunks kept]
      exact List.mem_append_right _ (List.mem_flatten.mpr ⟨piece, hpiece, hl⟩)
    rw [← hkept] at hmem
    exact Text.newline_not_mem_lines (List.mem_filter.mp hmem).1
  obtain ⟨first, rest, rfl, hfirst⟩ := exists_delimiter_of_mem_chunks hpiece
  rw [opensWithTests_unlines index _ hfeed]
  exact Line.isTestDelimiter_of_isSectionDelimiter hfirst

/-- **Documents**: the readers agree on all sections of a document exactly when its first section
does not start with a title. -/
theorem split_delimitersAgree_iff (content : List Char) :
    (∀ s ∈ split content, s.DelimitersAgree) ↔
      (split content).head?.any opensWithTests = false := by
  simp only [delimitersAgree_iff]
  rcases hsplit : split content with - | ⟨first, rest⟩
  · simp
  · have hrest : ∀ s ∈ rest, s.opensWithTests = false := by
      intro s hs
      exact opensWithTests_of_mem_tail (by rw [hsplit]; exact hs)
    simpa using fun _ => hrest

/-- A title on the first line of a document is taken for the name of its section, and the lines
behind it are read for a request.  Behind an empty line it is the title of tests. -/
theorem not_delimitersAgree_first :
    let content := "#### checks\nGET http://h/\n"
    (¬ ∀ s ∈ split content.toList, s.DelimitersAgree) ∧
      (Document.compile {} {} content).1.units =
        [{ name := "# checks", method := some .get, target := "http://h/" }] ∧
      (Document.compile {} {} ("\n" ++ content)).1.units = [] := by
  intro content
  have hsplit : split content.toList = [⟨0, .request, "#### checks\nGET http://h/".toList⟩] := by
    decide +kernel
  refine ⟨fun hagree => ?_, by decide +kernel, by decide +kernel⟩
  have hfirst := hagree ⟨0, .request, "#### checks\nGET http://h/".toList⟩ (by simp [hsplit])
  have hopens := (delimitersAgree_iff _).mp hfirst
  revert hopens
  decide

end Section

end HttpSuite
