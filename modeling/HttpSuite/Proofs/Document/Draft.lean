/-
HttpSuite/Proofs/Document/Draft.lean

Requests before they are written down.  A `Draft` holds what a section of a document says, apart
from scripts and assignments, and the proofs that its texts can be told from each other once they
stand on lines: so every draft can be printed, and no statement about the printed form has a side
condition.

    ### name                        the name
    @name id                        the name for references, if there is one
    METHOD target HTTP/1.1          the request line
    Key: value                      a line for each header
                                    a blank line and the body, if there is one
    #### title                      a block of tests, with a line for each test

What a line is, the reader sees from how it starts.  All printed lines but those of the name and of
the titles are `Plain`: they are no comments, delimiters or scripts, in any zone of the document.
-/
import HttpSuite.Document.Compile
import HttpSuite.Proofs.Text.Lines

namespace HttpSuite

open Text (isBlank trim trimStart startsWith unlines)

/-! ### Texts on lines -/

/-- A text that can stand within a line: without the ends of lines, and without the start of a
comment that may go on over lines. -/
structure FitsLine (s : List Char) : Prop where
  noFeed : '\n' ∉ s
  noReturn : '\r' ∉ s
  noComment : ¬ ['/', '*'] <:+: s

/-- A line that does not start like a comment, a delimiter or a script. -/
structure Plain (line : List Char) : Prop where
  noHash : startsWith "#".toList (trimStart line) = false
  noSlashes : startsWith "//".toList (trimStart line) = false
  noLess : startsWith "<".toList (trimStart line) = false
  noGreater : startsWith ">".toList (trimStart line) = false

namespace FitsLine

/-- Two texts that fit on a line do so with a blank between them. -/
theorem spaced {s t : List Char} (hs : FitsLine s) (ht : FitsLine t) :
    FitsLine (s ++ ' ' :: t) where
  noFeed := by simp [hs.noFeed, ht.noFeed]
  noReturn := by simp [hs.noReturn, ht.noReturn]
  noComment :=
    Text.not_pair_infix_append_cons (by decide) (by decide) hs.noComment ht.noComment

/-- A text without blanks fits on a line if no comment starts in it. -/
theorem of_word {s : List Char} (hword : ∀ c ∈ s, isBlank c = false)
    (hcomment : ¬ ['/', '*'] <:+: s) : FitsLine s where
  noFeed h := absurd (hword _ h) (by decide)
  noReturn h := absurd (hword _ h) (by decide)
  noComment := hcomment

/-- A comment does not start without a star. -/
theorem of_word_of_not_mem {s : List Char} (hword : ∀ c ∈ s, isBlank c = false) (hstar : '*' ∉ s) :
    FitsLine s :=
  of_word hword fun hpair => hstar (hpair.subset (by simp))

theorem nil : FitsLine [] := of_word (by simp) (by simp)

/-- Lines of such texts are read back, if the last one is not empty. -/
theorem lines_unlines {ls : List (List Char)} (hfits : ∀ line ∈ ls, FitsLine line)
    (last : ls.getLast? ≠ some []) : Text.lines (unlines ls) = ls :=
  Text.lines_unlines (fun line hline => (hfits line hline).noFeed)
    (fun line hline => (hfits line hline).noReturn) last

end FitsLine

namespace Plain

theorem nil : Plain [] where
  noHash := by decide
  noSlashes := by decide
  noLess := by decide
  noGreater := by decide

/-- A line is plain if its first character is neither a blank nor one of four marks. -/
theorem of_cons {c : Char} {s : List Char} (hblank : isBlank c = false) (hhash : '#' ≠ c)
    (hslash : '/' ≠ c) (hless : '<' ≠ c) (hgreater : '>' ≠ c) : Plain (c :: s) := by
  constructor <;> rw [Text.trimStart_cons_of_not_blank hblank]
  · exact Text.startsWith_cons_eq_false hhash _ _
  · exact Text.startsWith_cons_eq_false hslash _ _
  · exact Text.startsWith_cons_eq_false hless _ _
  · exact Text.startsWith_cons_eq_false hgreater _ _

variable {line : List Char} (h : Plain line)
include h

theorem startsWith_hash (more : List Char) :
    startsWith ('#' :: more) (trimStart line) = false := by
  have hhash := h.noHash
  rcases htrim : trimStart line with - | ⟨c, s⟩
  · rfl
  · rw [htrim] at hhash
    refine Text.startsWith_cons_eq_false (fun hc => ?_) _ _
    subst hc
    simp [startsWith, Text.stripStart?] at hhash

theorem isComment : Line.isComment line = false := by
  simp only [Line.isComment, h.noHash, h.noSlashes, Bool.or_self, Bool.and_false]

theorem isSectionDelimiter : Line.isSectionDelimiter line = false := by
  rw [Line.isSectionDelimiter, show "###".toList = '#' :: "##".toList from rfl,
    h.startsWith_hash, Bool.false_and]

theorem isTestDelimiter : Line.isTestDelimiter line = false := by
  rw [Line.isTestDelimiter, show "####".toList = '#' :: "###".toList from rfl, h.startsWith_hash]

/-- A plain line has no sign of a script in front. -/
theorem unsigned : (trim line).head? ≠ some '<' ∧ (trim line).head? ≠ some '>' := by
  have hless := h.noLess
  have hgreater := h.noGreater
  -- trimming at the end does not matter to the first character
  rw [Text.head?_trim]
  refine ⟨fun hhead => ?_, fun hhead => ?_⟩
  · obtain ⟨t, ht⟩ := List.head?_eq_some_iff.mp hhead
    simp [ht, startsWith, Text.stripStart?] at hless
  · obtain ⟨t, ht⟩ := List.head?_eq_some_iff.mp hhead
    simp [ht, startsWith, Text.stripStart?] at hgreater

end Plain

/-! ### The characters of names -/

/-- A character of the name of a header. -/
def isKeyChar (c : Char) : Bool := Ascii.isLetter c || Ascii.isDigit c || c == '-'

namespace isKeyChar

/-- No character of a name is a blank. -/
theorem isBlank_eq_false {c : Char} (h : isKeyChar c = true) : isBlank c = false := by
  have hcode : c.toNat = 45 ∨ (48 ≤ c.toNat ∧ c.toNat ≤ 57) ∨ (65 ≤ c.toNat ∧ c.toNat ≤ 90) ∨
      (97 ≤ c.toNat ∧ c.toNat ≤ 122) := by
    simp only [isKeyChar, Bool.or_eq_true, Ascii.isLetter_iff, Ascii.isDigit_iff, beq_iff_eq] at h
    rcases h with (h | h) | rfl
    · omega
    · omega
    · exact .inl rfl
  exact Text.isBlank_of_toNat (by omega) (by omega)

/-- A mark is no character of a name. -/
theorem ne_of_eq_false {mark c : Char} (hmark : isKeyChar mark = false) (h : isKeyChar c = true) :
    mark ≠ c := by
  rintro rfl
  rw [hmark] at h
  exact absurd h (by decide)

/-- A text of such characters fits on a line. -/
theorem fitsLine {s : List Char} (h : ∀ c ∈ s, isKeyChar c = true) : FitsLine s :=
  .of_word_of_not_mem (fun c hc => isBlank_eq_false (h c hc)) fun hstar =>
    absurd (h '*' hstar) (by decide)

/-- A word of such characters starts with one. -/
theorem exists_eq_cons {s : List Char} (hne : s ≠ []) (h : ∀ c ∈ s, isKeyChar c = true) :
    ∃ c t, s = c :: t ∧ isKeyChar c = true := by
  obtain ⟨c, t, rfl⟩ := List.exists_cons_of_ne_nil hne
  exact ⟨c, t, rfl, h c List.mem_cons_self⟩

/-- Methods are written in such characters. -/
theorem of_method (m : Method) : ∀ c ∈ m.text.toList, isKeyChar c = true := by
  refine List.all_eq_true.mp ?_
  cases m <;> decide

theorem text_ne_nil (m : Method) : m.text.toList ≠ [] := by
  cases m <;> decide

/-- A line that starts with such a character is plain. -/
theorem plain {c : Char} (h : isKeyChar c = true) (s : List Char) : Plain (c :: s) :=
  .of_cons (isBlank_eq_false h) (ne_of_eq_false (by decide) h) (ne_of_eq_false (by decide) h)
    (ne_of_eq_false (by decide) h) (ne_of_eq_false (by decide) h)

end isKeyChar

/-! ### Drafts -/

/-- A header: a name of letters, digits and hyphens, and a value. -/
structure Draft.Header where
  key : List Char
  value : List Char
  key_ne_nil : key ≠ []
  key_chars : ∀ c ∈ key, isKeyChar c = true
  value_fits : FitsLine value
  value_trimmed : trim value = value

/-- A body: lines of which the first and the last are not blank. -/
structure Draft.Body where
  lines : List (List Char)
  ne_nil : lines ≠ []
  fits : ∀ line ∈ lines, FitsLine line
  plain : ∀ line ∈ lines, Plain line
  first : ∀ line, lines.head? = some line → Text.isBlankText line = false
  last : ∀ line, lines.getLast? = some line → Text.isBlankText line = false

/-- A block of tests: a title, and lines that are not directives. -/
structure Draft.Tests where
  title : List Char
  title_fits : FitsLine title
  title_trimmed : trim title = title
  lines : List (List Char)
  fits : ∀ line ∈ lines, FitsLine line
  plain : ∀ line ∈ lines, Plain line
  trimmed : ∀ line ∈ lines, trim line = line
  ne_nil : ∀ line ∈ lines, line ≠ []
  noAt : ∀ line ∈ lines, line.head? ≠ some '@'

/-- The name for references into the response of a request; equals signs in front of it would not
count. -/
structure Draft.Id where
  text : List Char
  fits : FitsLine text
  trimmed : trim text = text
  ne_nil : text ≠ []
  noEquals : text.head? ≠ some '='

/-- A request before it is written down. -/
structure Draft where
  name : List Char
  name_fits : FitsLine name
  name_trimmed : trim name = name
  id : Option Draft.Id
  method : Method
  target : List Char
  target_ne_nil : target ≠ []
  target_word : ∀ c ∈ target, isBlank c = false
  target_noComment : ¬ ['/', '*'] <:+: target
  headers : List Draft.Header
  body : Option Draft.Body
  tests : List Draft.Tests

namespace Draft

/-! ### The printed form -/

/-- The line of a header. -/
def Header.line (h : Header) : List Char := (h.key ++ [':']) ++ ' ' :: h.value

/-- The line of a name for references. -/
def Id.line (i : Id) : List Char := "@name".toList ++ ' ' :: i.text

/-- The lines of a body, after a blank one. -/
def Body.print (b : Body) : List (List Char) := [] :: b.lines

/-- The line of a title. -/
def Tests.titleLine (t : Tests) : List Char := "####".toList ++ ' ' :: t.title

/-- The lines of a block of tests. -/
def Tests.print (t : Tests) : List (List Char) := t.titleLine :: t.lines

variable (d : Draft)

/-- The line of the name. -/
def nameLine : List Char := "###".toList ++ ' ' :: d.name

/-- The request line. -/
def requestLine : List Char :=
  d.method.text.toList ++ ' ' :: (d.target ++ ' ' :: "HTTP/1.1".toList)

/-- The lines of the request zone. -/
def requestZone : List (List Char) :=
  d.id.toList.map Id.line ++
    (d.requestLine :: (d.headers.map Header.line ++ d.body.toList.flatMap Body.print))

/-- The lines of the test zone. -/
def testZone : List (List Char) := d.tests.flatMap Tests.print

/-- The lines of a draft. -/
def print : List (List Char) := d.nameLine :: (d.requestZone ++ d.testZone)

/-- The document that some drafts are printed to. -/
def document (ds : List Draft) : String := String.ofList (unlines (ds.flatMap print))

/-! ### What is printed -/

/-- The body of a request that a body of a draft stands for. -/
def Body.toRequestBody (b : Body) : RequestBody := .inline (String.ofList (unlines b.lines))

/-- The block of tests that one of a draft stands for. -/
def Tests.toBlock (t : Tests) : TestBlock := ⟨String.ofList t.title, t.lines.map String.ofList⟩

/-- The unit that a draft stands for. -/
def toUnit : RequestUnit where
  name := String.ofList d.name
  method := some d.method
  target := String.ofList d.target
  headers := d.headers.map fun h => (String.ofList h.key, String.ofList h.value)
  body := d.body.elim .none Body.toRequestBody
  requestId := d.id.map fun i => String.ofList i.text
  directives := d.id.toList.map fun i => .nameBinding (String.ofList i.text)
  tests := d.tests.map Tests.toBlock

/-! ### Printed lines -/

theorem spaced_ne_nil (s t : List Char) : s ++ ' ' :: t ≠ [] :=
  List.append_ne_nil_of_right_ne_nil s (List.cons_ne_nil ' ' t)

/-- The name of a header and the colon behind it make up a word. -/
theorem Header.isBlank_eq_false (h : Header) : ∀ c ∈ h.key ++ [':'], isBlank c = false := by
  intro c hc
  rcases List.mem_append.mp hc with hc | hc
  · exact isKeyChar.isBlank_eq_false (h.key_chars c hc)
  · obtain rfl : c = ':' := by simpa using hc
    decide

theorem Header.line_fits (h : Header) : FitsLine h.line := by
  refine .spaced (.of_word_of_not_mem h.isBlank_eq_false fun hstar => ?_) h.value_fits
  rcases List.mem_append.mp hstar with hstar | hstar
  · exact absurd (h.key_chars _ hstar) (by decide)
  · exact absurd hstar (by decide)

theorem Header.line_plain (h : Header) : Plain h.line := by
  obtain ⟨c, s, hkey, hc⟩ := isKeyChar.exists_eq_cons h.key_ne_nil h.key_chars
  rw [Header.line, hkey]
  exact isKeyChar.plain hc _

theorem Id.line_fits (i : Id) : FitsLine i.line :=
  .spaced (.of_word_of_not_mem (Text.isBlank_eq_false_of_any rfl) (by decide)) i.fits

theorem Id.line_plain (i : Id) : Plain i.line :=
  .of_cons (by decide) (by decide) (by decide) (by decide) (by decide)

theorem Tests.titleLine_fits (t : Tests) : FitsLine t.titleLine :=
  .spaced (.of_word_of_not_mem (Text.isBlank_eq_false_of_any rfl) (by decide)) t.title_fits

theorem nameLine_fits : FitsLine d.nameLine :=
  .spaced (.of_word_of_not_mem (Text.isBlank_eq_false_of_any rfl) (by decide)) d.name_fits

theorem requestLine_fits : FitsLine d.requestLine :=
  .spaced (isKeyChar.fitsLine (isKeyChar.of_method d.method))
    (.spaced (.of_word d.target_word d.target_noComment)
      (.of_word_of_not_mem (Text.isBlank_eq_false_of_any rfl) (by decide)))

theorem requestLine_plain : Plain d.requestLine := by
  obtain ⟨c, s, hmethod, hc⟩ :=
    isKeyChar.exists_eq_cons (isKeyChar.text_ne_nil d.method) (isKeyChar.of_method d.method)
  rw [requestLine, hmethod]
  exact isKeyChar.plain hc _

/-- A property of the lines of the request zone holds when it holds of each kind of them. -/
theorem forall_mem_requestZone {p : List Char → Prop} (hid : ∀ i : Id, p i.line)
    (hrequest : p d.requestLine) (hheader : ∀ h : Header, p h.line) (hblank : p [])
    (hbody : ∀ b : Body, ∀ line ∈ b.lines, p line) : ∀ line ∈ d.requestZone, p line := by
  intro line hline
  simp only [requestZone, Body.print, List.mem_append, List.mem_map, List.mem_cons,
    List.mem_flatMap] at hline
  rcases hline with ⟨i, -, rfl⟩ | rfl | ⟨h, -, rfl⟩ | ⟨b, -, rfl | hline⟩
  · exact hid i
  · exact hrequest
  · exact hheader h
  · exact hblank
  · exact hbody b line hline

theorem requestZone_fits : ∀ line ∈ d.requestZone, FitsLine line :=
  d.forall_mem_requestZone Id.line_fits d.requestLine_fits Header.line_fits .nil Body.fits

theorem requestZone_plain : ∀ line ∈ d.requestZone, Plain line :=
  d.forall_mem_requestZone Id.line_plain d.requestLine_plain Header.line_plain .nil Body.plain

/-- The lines of the test zone are titles and plain lines. -/
theorem mem_testZone {line : List Char} (h : line ∈ d.testZone) :
    FitsLine line ∧ line ≠ [] ∧ ((∃ t : Tests, line = t.titleLine) ∨ Plain line) := by
  simp only [testZone, Tests.print, List.mem_flatMap, List.mem_cons] at h
  obtain ⟨t, -, rfl | hline⟩ := h
  · exact ⟨t.titleLine_fits, spaced_ne_nil _ _, .inl ⟨t, rfl⟩⟩
  · exact ⟨t.fits line hline, t.ne_nil line hline, .inr (t.plain line hline)⟩

/-- A printed line that is not plain is that of a name or a title. -/
theorem plain_or_title {line : List Char} (h : line ∈ d.requestZone ++ d.testZone) :
    Plain line ∨ ∃ t : Tests, line = t.titleLine := by
  rcases List.mem_append.mp h with h | h
  · exact .inl (d.requestZone_plain line h)
  · exact (d.mem_testZone h).2.2.symm

theorem print_fits : ∀ line ∈ d.print, FitsLine line := by
  intro line hline
  simp only [print, List.mem_cons, List.mem_append] at hline
  rcases hline with rfl | hline | hline
  · exact d.nameLine_fits
  · exact d.requestZone_fits line hline
  · exact (d.mem_testZone hline).1

/-! An empty last line would be lost: a text that ends with the end of a line has no line after it.
-/

theorem getLast?_ne_of_forall {ls : List (List Char)} (h : ∀ line ∈ ls, line ≠ []) :
    ls.getLast? ≠ some [] :=
  fun hlast => h [] (List.mem_of_getLast? hlast) rfl

theorem getLast?_append_ne {xs ys : List (List Char)} (hxs : xs.getLast? ≠ some [])
    (hys : ys.getLast? ≠ some []) : (xs ++ ys).getLast? ≠ some [] := by
  rw [List.getLast?_append]
  cases h : ys.getLast? with
  | none => simpa using hxs
  | some l => simpa [h] using hys

theorem Body.getLast?_print_ne (b : Body) : b.print.getLast? ≠ some [] := by
  obtain ⟨line, lines, hlines⟩ := List.exists_cons_of_ne_nil b.ne_nil
  intro hlast
  rw [Body.print, hlines, List.getLast?_cons_cons, ← hlines] at hlast
  exact absurd (b.last [] hlast) (by decide)

theorem getLast?_zones_ne : (d.requestZone ++ d.testZone).getLast? ≠ some [] := by
  have hid : (d.id.toList.map Id.line).getLast? ≠ some [] := by
    refine getLast?_ne_of_forall fun line hline => ?_
    obtain ⟨i, -, rfl⟩ := List.mem_map.mp hline
    exact spaced_ne_nil _ _
  have hrequest : [d.requestLine].getLast? ≠ some [] := fun h =>
    spaced_ne_nil _ _ (Option.some.inj h)
  have hheaders : (d.headers.map Header.line).getLast? ≠ some [] := by
    refine getLast?_ne_of_forall fun line hline => ?_
    obtain ⟨h, -, rfl⟩ := List.mem_map.mp hline
    exact spaced_ne_nil _ _
  have hbody : (d.body.toList.flatMap Body.print).getLast? ≠ some [] := by
    cases d.body with
    | none => simp
    | some b => simpa using b.getLast?_print_ne
  have htests : d.testZone.getLast? ≠ some [] :=
    getLast?_ne_of_forall fun line hline => (d.mem_testZone hline).2.1
  -- the last part that has lines decides, and none of the parts ends in an empty one
  have hrest := getLast?_append_ne hrequest (getLast?_append_ne hheaders hbody)
  exact getLast?_append_ne (getLast?_append_ne hid hrest) htests

theorem getLast?_print_ne : d.print.getLast? ≠ some [] := by
  obtain ⟨line, rest, h⟩ : ∃ line rest, d.requestZone ++ d.testZone = line :: rest :=
    List.exists_cons_of_ne_nil (by simp [requestZone])
  rw [print, h, List.getLast?_cons_cons, ← h]
  exact d.getLast?_zones_ne

end Draft

end HttpSuite
