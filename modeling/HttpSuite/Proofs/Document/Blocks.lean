/-
HttpSuite/Proofs/Document/Blocks.lean

Where the lines of a test zone go.  Each line that is not blank has one place:

    title         the title of a block, which the line opens
    line          among the lines of a block
    extraction    among the extractions

The blocks of a zone are found from the end of its lines on.  Read from the front, each line changes
what the lines before it made, in the way that its role says (`add`):

    ofLines lines  =  lines.foldl (fun z line => z.add (roleOf line)) ∅      (`ofLines_eq_foldl`)

So a zone grows at its end alone (`Grows`): what has found its place keeps it, and a new line gets a
place behind the others (`Sorts.concat`).  Two things follow at once, the number of the blocks, and
that a title cuts a zone in two.

Main result: the lines of a zone are sorted into its blocks and its extractions, in their order, and
nothing else stands there (`ofLines_sorted`).
-/
import HttpSuite.Proofs.Document.Roles
import Mathlib.Data.List.Induction

namespace HttpSuite

open Text (content trim)

/-! ### Lines -/

namespace Line

/-- Whether a line is read as a key with a path into the response. -/
def isExtraction (line : List Char) : Bool :=
  match Directive.ofLine? line with
  | some (.ok (.pathExtraction _ _)) => true
  | _ => false

/-- Whether a line neither opens a block nor is an extraction. -/
def isOrdinary (line : List Char) : Bool := !isTestDelimiter line && !isExtraction line

theorem isTestDelimiter_of_isOrdinary {line : List Char} (h : isOrdinary line = true) :
    isTestDelimiter line = false := by
  rw [isOrdinary, Bool.and_eq_true, Bool.not_eq_true'] at h
  exact h.1

theorem isOrdinary_of_isTestDelimiter {line : List Char} (h : isTestDelimiter line = true) :
    isOrdinary line = false := by
  rw [isOrdinary, h]
  rfl

theorem isOrdinary_of_isExtraction {line : List Char} (h : isExtraction line = true) :
    isOrdinary line = false := by
  rw [isOrdinary, h, Bool.not_true, Bool.and_false]

theorem isExtraction_iff {line : List Char} :
    isExtraction line = true ↔
      ∃ key path, Directive.ofLine? line = some (.ok (.pathExtraction key path)) := by
  unfold isExtraction
  split
  · rename_i key path hread
    exact ⟨fun _ => ⟨key, path, hread⟩, fun _ => rfl⟩
  · rename_i hother
    refine ⟨fun h => ?_, fun ⟨key, path, hread⟩ => absurd hread (hother key path)⟩
    cases h

end Line

namespace TestZone

/-- The title that a trimmed line gives to the block that it opens. -/
def titleOf (line : List Char) : String :=
  String.ofList (trim (line.dropWhile (· == '#')))

/-! ### One line more -/

/-- Blocks with one test more: it goes behind the lines of the last block, and if there is none it
opens a block without a title. -/
def addTest (text : String) : List TestBlock → List TestBlock
  | [] => [⟨"", [text]⟩]
  | [b] => [{ b with lines := b.lines ++ [text] }]
  | b :: b' :: rest => b :: addTest text (b' :: rest)

/-- A zone with one line more, by the role of the line. -/
def add (z : TestZone) : LineRole → TestZone
  | .blank => z
  | .title text => { z with blocks := z.blocks ++ [⟨text, []⟩] }
  | .extraction d => { z with extractions := z.extractions ++ [d] }
  | .test text => { z with blocks := addTest text z.blocks }

theorem addTest_concat (text : String) (blocks : List TestBlock) (b : TestBlock) :
    addTest text (blocks ++ [b]) = blocks ++ [{ b with lines := b.lines ++ [text] }] := by
  induction blocks with
  | nil => rfl
  | cons first blocks ih =>
      obtain ⟨second, rest, hrest⟩ := List.exists_cons_of_ne_nil (List.concat_ne_nil b blocks)
      rw [List.cons_append, List.cons_append, ← ih, hrest]
      rfl

/-- Tests one after the other go behind the lines of the last block. -/
theorem foldl_addTest_concat (texts : List String) (blocks : List TestBlock) (b : TestBlock) :
    texts.foldl (fun blocks text => addTest text blocks) (blocks ++ [b]) =
      blocks ++ [{ b with lines := b.lines ++ texts }] := by
  induction texts generalizing b with
  | nil => simp
  | cons text texts ih =>
      rw [List.foldl_cons, addTest_concat, ih, List.append_assoc]
      rfl

/-- The tests up to the first title go to the last block that there is, and the blocks from there on
behind it. -/
theorem foldl_add (roles : List LineRole) (z : TestZone) :
    roles.foldl add z =
      ⟨(blocksOf roles).1.foldl (fun blocks text => addTest text blocks) z.blocks ++
          (blocksOf roles).2,
        z.extractions ++ extractionsOf roles⟩ := by
  induction roles generalizing z with
  | nil => simp [blocksOf, extractionsOf]
  | cons role roles ih =>
      rw [List.foldl_cons, ih]
      cases role with
      | blank => rfl
      | title text =>
          -- what comes next up to another title belongs to the block of this one
          simp only [add, blocksOf, foldl_addTest_concat, List.nil_append, List.append_assoc]
          rfl
      | extraction d =>
          have hnext : extractionsOf (.extraction d :: roles) = [d] ++ extractionsOf roles := rfl
          rw [hnext, ← List.append_assoc]
          rfl
      | test text => rfl

/-- Tests without a block before them are in one without a title. -/
theorem foldl_addTest_nil (texts : List String) :
    texts.foldl (fun blocks text => addTest text blocks) [] =
      if texts.isEmpty then [] else [⟨"", texts⟩] := by
  cases texts with
  | nil => rfl
  | cons text texts => exact foldl_addTest_concat texts [] ⟨"", [text]⟩

/-- **One line after the other**: a zone is made from the front by adding its lines. -/
theorem ofLines_eq_foldl (lines : List (List Char)) :
    ofLines lines = lines.foldl (fun z line => z.add (roleOf line)) ⟨[], []⟩ := by
  rw [← List.foldl_map (f := roleOf) (g := add), foldl_add, foldl_addTest_nil]
  unfold ofLines
  dsimp only
  split
  · rfl
  · rfl

theorem ofLines_concat (lines : List (List Char)) (line : List Char) :
    ofLines (lines ++ [line]) = (ofLines lines).add (roleOf line) := by
  rw [ofLines_eq_foldl, ofLines_eq_foldl, List.foldl_append]
  rfl

/-! ### The number of blocks -/

/-- `Reads line role`: a line is read as what the role says. -/
inductive Reads (line : List Char) : LineRole → Prop
  | blank : trim line = [] → Reads line .blank
  | title : Line.isTestDelimiter (trim line) = true → Reads line (.title (titleOf (trim line)))
  | extraction {key path} : Line.isTestDelimiter (trim line) = false →
      Directive.ofLine? (trim line) = some (.ok (.pathExtraction key path)) →
      Reads line (.extraction (.pathExtraction key path))
  | test : trim line ≠ [] → Line.isOrdinary (trim line) = true →
      Reads line (.test (String.ofList (trim line)))

theorem reads_roleOf (line : List Char) : Reads line (roleOf line) := by
  fun_cases roleOf line with
  | case1 _ hblank => exact .blank (List.isEmpty_iff.mp hblank)
  | case2 _ _ hdelimiter => exact .title hdelimiter
  | case3 _ _ hdelimiter key path hread =>
      exact .extraction (Bool.eq_false_iff.mpr hdelimiter) hread
  | case4 _ hblank hdelimiter hother =>
      have hno : Line.isExtraction (trim line) = false := by
        rw [Bool.eq_false_iff]
        intro hextraction
        obtain ⟨key, path, hread⟩ := Line.isExtraction_iff.mp hextraction
        exact hother key path hread
      refine .test (fun hnil => hblank (List.isEmpty_iff.mpr hnil)) ?_
      rw [Line.isOrdinary, Bool.eq_false_iff.mpr hdelimiter, hno]
      rfl

theorem roleOf_of_isTestDelimiter {line : List Char} (h : Line.isTestDelimiter line = true) :
    roleOf line = .title (titleOf (trim line)) := by
  have hrole := reads_roleOf line
  generalize roleOf line = role at hrole ⊢
  rw [← Line.isTestDelimiter_trim] at h
  cases hrole with
  | blank hblank => rw [hblank] at h; cases h
  | title _ => rfl
  | extraction hno _ => rw [hno] at h; cases h
  | test _ hordinary => rw [Line.isTestDelimiter_of_isOrdinary hordinary] at h; cases h

/-- Whether an ordinary line comes before the first title. -/
def startsLoose (lines : List (List Char)) : Bool :=
  ((content lines).takeWhile (!Line.isTestDelimiter ·)).any Line.isOrdinary

/-- The number of the titles. -/
def titleCount (lines : List (List Char)) : Nat := (content lines).countP Line.isTestDelimiter

section Concat

variable {lines : List (List Char)} {line : List Char}

theorem content_concat_of_blank (h : trim line = []) : content (lines ++ [line]) = content lines := by
  rw [Text.content_append, Text.content_cons_of_blank h, Text.content_nil, List.append_nil]

theorem content_concat_of_ne_nil (h : trim line ≠ []) :
    content (lines ++ [line]) = content lines ++ [trim line] := by
  rw [Text.content_append, Text.content_cons_of_ne_nil h, Text.content_nil]

/-- An ordinary line matters as long as no title has come before it. -/
theorem startsLoose_concat_of_ordinary (h : trim line ≠ [])
    (hordinary : Line.isOrdinary (trim line) = true) :
    startsLoose (lines ++ [line]) = (startsLoose lines || titleCount lines == 0) := by
  rw [startsLoose, content_concat_of_ne_nil h, startsLoose, titleCount]
  have hdelimiter : Line.isTestDelimiter (trim line) = false :=
    Line.isTestDelimiter_of_isOrdinary hordinary
  induction content lines with
  | nil => simp [hdelimiter, hordinary]
  | cons l ls ih =>
      cases hl : Line.isTestDelimiter l with
      | true => simp [hl]
      | false => simp [hl, ih, Bool.or_assoc]

/-- No other line does. -/
theorem startsLoose_concat_of_not_ordinary (h : trim line = [] ∨ Line.isOrdinary (trim line) = false) :
    startsLoose (lines ++ [line]) = startsLoose lines := by
  rcases h with hblank | hother
  · rw [startsLoose, content_concat_of_blank hblank, startsLoose]
  · by_cases h : trim line = []
    · rw [startsLoose, content_concat_of_blank h, startsLoose]
    · rw [startsLoose, content_concat_of_ne_nil h, startsLoose]
      induction content lines with
      | nil => cases hd : Line.isTestDelimiter (trim line) <;> simp [hd, hother]
      | cons l ls ih =>
          cases hl : Line.isTestDelimiter l with
          | true => simp [hl]
          | false => simp [hl, ih]

theorem titleCount_concat : titleCount (lines ++ [line]) =
    titleCount lines + if Line.isTestDelimiter (trim line) then 1 else 0 := by
  by_cases h : trim line = []
  · rw [titleCount, content_concat_of_blank h, h]
    rfl
  · rw [titleCount, content_concat_of_ne_nil h, List.countP_append, List.countP_singleton]
    rfl

end Concat

theorem length_addTest (text : String) (blocks : List TestBlock) :
    (addTest text blocks).length = max 1 blocks.length := by
  rcases List.eq_nil_or_concat blocks with rfl | ⟨front, b, rfl⟩
  · rfl
  · rw [List.concat_eq_append, addTest_concat, List.length_append, List.length_append]
    show front.length + 1 = max 1 (front.length + 1)
    omega

/-- **The number of blocks** is that of the titles, and one more if an ordinary line comes before
the first of them. -/
theorem length_blocks (lines : List (List Char)) :
    (ofLines lines).blocks.length =
      titleCount lines + if startsLoose lines then 1 else 0 := by
  induction lines using List.reverseRecOn with
  | nil => rfl
  | append_singleton lines line ih =>
      rw [ofLines_concat, titleCount_concat]
      have hrole := reads_roleOf line
      generalize roleOf line = role at hrole ⊢
      cases hrole with
      | blank hblank =>
          have hno : Line.isTestDelimiter (trim line) = false := by rw [hblank]; rfl
          rw [startsLoose_concat_of_not_ordinary (.inl hblank), hno]
          exact ih
      | title hdelimiter =>
          have hother := Line.isOrdinary_of_isTestDelimiter hdelimiter
          rw [startsLoose_concat_of_not_ordinary (.inr hother), hdelimiter]
          show (_ ++ [_]).length = _
          rw [List.length_append, ih]
          show _ + 1 = titleCount lines + 1 + _
          omega
      | extraction hdelimiter hread =>
          have hextraction := Line.isExtraction_iff.mpr ⟨_, _, hread⟩
          have hother : Line.isOrdinary (trim line) = false := by
            rw [Line.isOrdinary, hextraction, Bool.not_true, Bool.and_false]
          rw [startsLoose_concat_of_not_ordinary (.inr hother), hdelimiter]
          exact ih
      | test hne hordinary =>
          rw [startsLoose_concat_of_ordinary hne hordinary,
            Line.isTestDelimiter_of_isOrdinary hordinary]
          show (addTest _ _).length = _
          rw [length_addTest, ih]
          -- the test opens a block exactly if there is no title and no test yet
          cases hloose : startsLoose lines with
          | true => simp
          | false =>
              by_cases hzero : titleCount lines = 0
              · simp [hzero]
              · simp [hzero]
                omega

/-! ### Places -/

/-- A place in a zone, by the numbers of the block, the line and the extraction, from zero. -/
inductive Place where
  | title (block : Nat)
  | line (block number : Nat)
  | extraction (number : Nat)
deriving DecidableEq, Repr

/-- The order of the places that are in blocks, and that of extractions: a title stands in front of
the lines of its block, and these stand in front of the next title. -/
def Place.Before : Place → Place → Prop
  | title b, title b' => b < b'
  | title b, line b' _ => b ≤ b'
  | line b _, title b' => b < b'
  | line b n, line b' n' => b < b' ∨ b = b' ∧ n < n'
  | extraction n, extraction n' => n < n'
  | extraction _, _ => True
  | _, extraction _ => True

/-- The places of a zone that are there for lines: if the zone is loose, its first block has no line
for a title. -/
def Has (z : TestZone) (loose : Bool) : Place → Prop
  | .title b => b < z.blocks.length ∧ (loose = true → 0 < b)
  | .line b n => ∃ block, z.blocks[b]? = some block ∧ n < block.lines.length
  | .extraction n => n < z.extractions.length

/-- `z.Holds place line`: the trimmed line stands at the place, and is what stands there. -/
inductive Holds (z : TestZone) : Place → List Char → Prop
  | title {b block line} : Line.isTestDelimiter line = true → z.blocks[b]? = some block →
      block.title = titleOf line → Holds z (.title b) line
  | line {b n block line} : Line.isOrdinary line = true → z.blocks[b]? = some block →
      block.lines[n]? = some (String.ofList line) → Holds z (.line b n) line
  | extraction {n key path line} : Line.isTestDelimiter line = false →
      Directive.ofLine? line = some (.ok (.pathExtraction key path)) →
      z.extractions[n]? = some (.pathExtraction key path) → Holds z (.extraction n) line

/-- `z.Sorts lines places`: these are the places of the lines that are not blank, one each and in
order, and the zone has no others. -/
structure Sorts (z : TestZone) (lines : List (List Char)) (places : List Place) : Prop where
  holds : List.Forall₂ z.Holds places (content lines)
  ordered : places.Pairwise Place.Before
  complete : ∀ place, place ∈ places ↔ z.Has (startsLoose lines) place
  untitled : startsLoose lines = true → z.blocks.head?.map (·.title) = some ""

/-- `z.Grows z'`: what stands in a zone stands at the same place in the other one. -/
structure Grows (z z' : TestZone) : Prop where
  blocks : ∀ (b : Nat) (block : TestBlock), z.blocks[b]? = some block →
    ∃ block', z'.blocks[b]? = some block' ∧ block'.title = block.title ∧
      block.lines <+: block'.lines
  extractions : z.extractions <+: z'.extractions

theorem Grows.holds {z z' : TestZone} (hgrows : z.Grows z') {place : Place} {line : List Char}
    (h : z.Holds place line) : z'.Holds place line := by
  cases h with
  | title hdelimiter hblock htitle =>
      obtain ⟨block', hblock', htitle', -⟩ := hgrows.blocks _ _ hblock
      exact .title hdelimiter hblock' (htitle'.trans htitle)
  | line hordinary hblock hline =>
      obtain ⟨block', hblock', -, hlines⟩ := hgrows.blocks _ _ hblock
      obtain ⟨hn, htext⟩ := List.getElem?_eq_some_iff.mp hline
      refine .line hordinary hblock' ?_
      rw [List.prefix_iff_getElem?.mp hlines _ hn, htext]
  | extraction hdelimiter hread hd =>
      obtain ⟨hn, hdirective⟩ := List.getElem?_eq_some_iff.mp hd
      refine .extraction hdelimiter hread ?_
      rw [List.prefix_iff_getElem?.mp hgrows.extractions _ hn, hdirective]

/-- What stands in a list with one element more. -/
theorem getElem?_concat_eq_some_iff {α : Type} {xs : List α} {x a : α} {i : Nat} :
    (xs ++ [x])[i]? = some a ↔ xs[i]? = some a ∨ i = xs.length ∧ a = x := by
  constructor
  · intro h
    rw [List.getElem?_append] at h
    split at h
    · exact .inl h
    · obtain ⟨hi, hx⟩ := List.getElem?_eq_some_iff.mp h
      rw [List.length_singleton] at hi
      rw [List.getElem_singleton] at hx
      exact .inr ⟨by omega, hx.symm⟩
  · rintro (h | ⟨rfl, rfl⟩)
    · rw [List.getElem?_append_left (List.getElem?_eq_some_iff.mp h).1, h]
    · exact List.getElem?_concat_length

/-- **One line more** that is not blank: it gets a place behind all that there are. -/
theorem Sorts.snoc {z z' : TestZone} {lines : List (List Char)} {line : List Char}
    {places : List Place} {place : Place} (h : z.Sorts lines places) (hne : trim line ≠ [])
    (hgrows : z.Grows z') (hholds : z'.Holds place (trim line))
    (hbehind : ∀ q, z.Has (startsLoose lines) q → q.Before place)
    (hcomplete : ∀ q, z'.Has (startsLoose (lines ++ [line])) q ↔
      z.Has (startsLoose lines) q ∨ q = place)
    (huntitled : startsLoose (lines ++ [line]) = true → z'.blocks.head?.map (·.title) = some "") :
    z'.Sorts (lines ++ [line]) (places ++ [place]) where
  holds := by
    rw [content_concat_of_ne_nil hne]
    exact List.rel_append (h.holds.imp fun _ _ => hgrows.holds) (.cons hholds .nil)
  ordered := by
    refine List.pairwise_append.mpr ⟨h.ordered, List.pairwise_singleton _ _, ?_⟩
    intro q hq q' hq'
    rw [List.mem_singleton.mp hq']
    exact hbehind q ((h.complete q).mp hq)
  complete q := by rw [hcomplete, List.mem_append, h.complete, List.mem_singleton]
  untitled := huntitled

theorem Grows.of_blocks_eq {z z' : TestZone} (hblocks : z'.blocks = z.blocks)
    (hextractions : z.extractions <+: z'.extractions) : z.Grows z' := by
  refine ⟨fun b block hblock => ⟨block, ?_, rfl, List.prefix_refl _⟩, hextractions⟩
  rw [hblocks, hblock]

/-! What a block at the end has to do with the places: those of lines in it stand behind all others. -/

section LastBlock

variable {front : List TestBlock} {last : TestBlock} {extractions : List Directive} {loose : Bool}

theorem has_line_concat {b n : Nat} :
    Has ⟨front ++ [last], extractions⟩ loose (.line b n) ↔
      (∃ block, front[b]? = some block ∧ n < block.lines.length) ∨
        b = front.length ∧ n < last.lines.length := by
  constructor
  · rintro ⟨block, hblock, hn⟩
    rcases getElem?_concat_eq_some_iff.mp hblock with hfront | ⟨rfl, rfl⟩
    · exact .inl ⟨block, hfront, hn⟩
    · exact .inr ⟨rfl, hn⟩
  · rintro (⟨block, hfront, hn⟩ | ⟨rfl, hn⟩)
    · exact ⟨block, getElem?_concat_eq_some_iff.mpr (.inl hfront), hn⟩
    · exact ⟨last, List.getElem?_concat_length, hn⟩

/-- The place behind the lines of the last block is behind all places. -/
theorem Has.before_line {q : Place} (h : Has ⟨front ++ [last], extractions⟩ loose q) :
    q.Before (.line front.length last.lines.length) := by
  cases q with
  | title b =>
      have hb : b < (front ++ [last]).length := h.1
      rw [List.length_append, List.length_singleton] at hb
      exact Nat.lt_succ_iff.mp hb
  | line b n =>
      rcases has_line_concat.mp h with ⟨block, hfront, -⟩ | ⟨rfl, hn⟩
      · exact .inl (List.getElem?_eq_some_iff.mp hfront).1
      · exact .inr ⟨rfl, hn⟩
  | extraction n => exact trivial

/-- A zone grows when lines are added to its last block. -/
theorem grows_last (texts : List String) :
    Grows ⟨front ++ [last], extractions⟩
      ⟨front ++ [{ last with lines := last.lines ++ texts }], extractions⟩ where
  blocks b block hblock := by
    rcases getElem?_concat_eq_some_iff.mp hblock with hfront | ⟨rfl, rfl⟩
    · exact ⟨block, getElem?_concat_eq_some_iff.mpr (.inl hfront), rfl, List.prefix_refl _⟩
    · exact ⟨_, List.getElem?_concat_length, rfl, List.prefix_append _ _⟩
  extractions := List.prefix_refl _

end LastBlock

/-- A line that is a title opens a block. -/
theorem Sorts.title {z : TestZone} {lines : List (List Char)} {line : List Char}
    {places : List Place} (h : z.Sorts lines places)
    (hlength : startsLoose lines = true → 0 < z.blocks.length)
    (hdelimiter : Line.isTestDelimiter (trim line) = true) :
    (z.add (.title (titleOf (trim line)))).Sorts (lines ++ [line])
      (places ++ [.title z.blocks.length]) := by
  have hne : trim line ≠ [] := by
    rintro hnil
    rw [hnil] at hdelimiter
    cases hdelimiter
  have hloose : startsLoose (lines ++ [line]) = startsLoose lines :=
    startsLoose_concat_of_not_ordinary (.inr (Line.isOrdinary_of_isTestDelimiter hdelimiter))
  have hlast : (z.add (.title (titleOf (trim line)))).blocks[z.blocks.length]? =
      some ⟨titleOf (trim line), []⟩ :=
    List.getElem?_concat_length
  refine h.snoc hne ⟨?_, List.prefix_refl _⟩ (.title hdelimiter hlast rfl) ?_ ?_ ?_
  · intro b block hblock
    exact ⟨block, getElem?_concat_eq_some_iff.mpr (.inl hblock), rfl, List.prefix_refl _⟩
  · intro q hq
    cases q with
    | title b => exact hq.1
    | line b n =>
        obtain ⟨block, hblock, -⟩ := hq
        exact (List.getElem?_eq_some_iff.mp hblock).1
    | extraction n => exact trivial
  · intro q
    rw [hloose]
    cases q with
    | title b =>
        show b < (z.blocks ++ [_]).length ∧ _ ↔ (b < z.blocks.length ∧ _) ∨ _
        rw [List.length_append, List.length_singleton, Place.title.injEq]
        constructor
        · rintro ⟨hb, hfirst⟩
          by_cases hlt : b < z.blocks.length
          · exact .inl ⟨hlt, hfirst⟩
          · exact .inr (by omega)
        · rintro (⟨hb, hfirst⟩ | rfl)
          · exact ⟨by omega, hfirst⟩
          · exact ⟨by omega, hlength⟩
    | line b n =>
        -- the new block has no lines
        have hnone : ¬ (b = z.blocks.length ∧ n < 0) := fun hlast => Nat.not_lt_zero n hlast.2
        refine has_line_concat.trans ?_
        exact or_congr Iff.rfl (iff_of_false hnone (by simp))
    | extraction n => exact ⟨.inl, fun hq => hq.resolve_right (by simp)⟩
  · intro hstart
    rw [hloose] at hstart
    have huntitled := h.untitled hstart
    show (z.blocks ++ [_]).head?.map _ = _
    rw [List.head?_append_of_ne_nil _ (List.length_pos_iff.mp (hlength hstart)), huntitled]

/-- An extraction goes behind the others. -/
theorem Sorts.extraction {z : TestZone} {lines : List (List Char)} {line : List Char}
    {places : List Place} (h : z.Sorts lines places) {key path : String}
    (hdelimiter : Line.isTestDelimiter (trim line) = false)
    (hread : Directive.ofLine? (trim line) = some (.ok (.pathExtraction key path))) :
    (z.add (.extraction (.pathExtraction key path))).Sorts (lines ++ [line])
      (places ++ [.extraction z.extractions.length]) := by
  have hne : trim line ≠ [] := by
    rintro hnil
    rw [hnil] at hread
    cases hread
  have hloose : startsLoose (lines ++ [line]) = startsLoose lines :=
    startsLoose_concat_of_not_ordinary
      (.inr (Line.isOrdinary_of_isExtraction (Line.isExtraction_iff.mpr ⟨key, path, hread⟩)))
  refine h.snoc hne (.of_blocks_eq rfl (List.prefix_append _ _))
    (.extraction hdelimiter hread List.getElem?_concat_length) ?_ ?_ ?_
  · intro q hq
    cases q with
    | title b => exact trivial
    | line b n => exact trivial
    | extraction n => exact hq
  · intro q
    rw [hloose]
    cases q with
    | title b => exact ⟨.inl, fun hq => hq.resolve_right (by simp)⟩
    | line b n => exact ⟨.inl, fun hq => hq.resolve_right (by simp)⟩
    | extraction n =>
        show n < (z.extractions ++ [_]).length ↔ n < z.extractions.length ∨ _
        rw [List.length_append, List.length_singleton, Place.extraction.injEq]
        omega
  · intro hstart
    rw [hloose] at hstart
    exact h.untitled hstart

/-- A test that comes before any block opens one without a title. -/
theorem Sorts.test_nil {z : TestZone} {lines : List (List Char)} {line : List Char}
    {places : List Place} (h : z.Sorts lines places) (hblocks : z.blocks = [])
    (hne : trim line ≠ []) (hordinary : Line.isOrdinary (trim line) = true)
    (hloose : startsLoose (lines ++ [line]) = true) :
    (z.add (.test (String.ofList (trim line)))).Sorts (lines ++ [line])
      (places ++ [.line 0 0]) := by
  have hadd : z.add (.test (String.ofList (trim line))) =
      ⟨[⟨"", [String.ofList (trim line)]⟩], z.extractions⟩ := by
    show { z with blocks := addTest _ z.blocks } = _
    rw [hblocks]
    rfl
  rw [hadd]
  have hno : ∀ (b : Nat) (block : TestBlock), z.blocks[b]? ≠ some block := by
    intro b block hblock
    rw [hblocks] at hblock
    cases hblock
  refine h.snoc hne ⟨fun b block hblock => absurd hblock (hno b block), List.prefix_refl _⟩
    (.line hordinary rfl rfl) ?_ ?_ fun _ => rfl
  · intro q hq
    cases q with
    | title b =>
        have hb := hq.1
        rw [hblocks] at hb
        cases hb
    | line b n =>
        obtain ⟨block, hblock, -⟩ := hq
        exact absurd hblock (hno b block)
    | extraction n => exact trivial
  · intro q
    cases q with
    | title b =>
        -- the new block has no line for a title
        have hnot : ¬ b < z.blocks.length := by rw [hblocks]; exact Nat.not_lt_zero b
        constructor
        · rintro ⟨hb, hfirst⟩
          have hzero : b < 1 := hb
          have := hfirst hloose
          omega
        · rintro (⟨hb, -⟩ | hq)
          · exact absurd hb hnot
          · cases hq
    | line b n =>
        constructor
        · rintro ⟨block, hblock, hn⟩
          obtain ⟨hb, rfl⟩ := List.getElem?_eq_some_iff.mp hblock
          obtain rfl : b = 0 := Nat.lt_one_iff.mp hb
          obtain rfl : n = 0 := Nat.lt_one_iff.mp hn
          exact .inr rfl
        · rintro (⟨block, hblock, -⟩ | hq)
          · exact absurd hblock (hno b block)
          · cases hq
            exact ⟨_, rfl, Nat.zero_lt_one⟩
    | extraction n => exact ⟨.inl, fun hq => hq.resolve_right (by simp)⟩

/-- A test goes behind the lines of the last block. -/
theorem Sorts.test_concat {z : TestZone} {lines : List (List Char)} {line : List Char}
    {places : List Place} (h : z.Sorts lines places) {front : List TestBlock} {last : TestBlock}
    (hblocks : z.blocks = front ++ [last]) (hne : trim line ≠ [])
    (hordinary : Line.isOrdinary (trim line) = true)
    (hloose : startsLoose (lines ++ [line]) = startsLoose lines) :
    (z.add (.test (String.ofList (trim line)))).Sorts (lines ++ [line])
      (places ++ [.line front.length last.lines.length]) := by
  obtain ⟨blocks, extractions⟩ := z
  obtain rfl : blocks = front ++ [last] := hblocks
  have hadd : add ⟨front ++ [last], extractions⟩ (.test (String.ofList (trim line))) =
      ⟨front ++ [{ last with lines := last.lines ++ [String.ofList (trim line)] }],
        extractions⟩ := by
    show TestZone.mk (addTest _ (front ++ [last])) extractions = _
    rw [addTest_concat]
  rw [hadd]
  refine h.snoc hne (grows_last _)
    (.line hordinary List.getElem?_concat_length List.getElem?_concat_length)
    (fun q hq => hq.before_line) ?_ ?_
  · intro q
    rw [hloose]
    cases q with
    | title b =>
        show b < (front ++ [_]).length ∧ _ ↔ (b < (front ++ [last]).length ∧ _) ∨ _
        rw [List.length_append, List.length_append]
        exact ⟨.inl, fun hq => hq.resolve_right (by simp)⟩
    | line b n =>
        -- of the lines of the last block only the new one was not there
        rw [has_line_concat, has_line_concat, List.length_append, List.length_singleton,
          Place.line.injEq, or_assoc]
        refine or_congr Iff.rfl ?_
        omega
    | extraction n => exact ⟨.inl, fun hq => hq.resolve_right (by simp)⟩
  · intro hstart
    rw [hloose] at hstart
    have huntitled := h.untitled hstart
    cases front with
    | nil => exact huntitled
    | cons first front => exact huntitled

/-! ### Sorted lines -/

/-- **Places**: the lines of a zone have their places in it. -/
theorem exists_sorts (lines : List (List Char)) : ∃ places, (ofLines lines).Sorts lines places := by
  induction lines using List.reverseRecOn with
  | nil =>
      refine ⟨[], .nil, .nil, fun place => ⟨fun h => absurd h List.not_mem_nil, fun h => ?_⟩,
        fun h => by cases h⟩
      cases place with
      | title b => exact absurd h.1 (Nat.not_lt_zero b)
      | line b n =>
          obtain ⟨block, hblock, -⟩ := h
          cases hblock
      | extraction n => exact absurd h (Nat.not_lt_zero n)
  | append_singleton lines line ih =>
      obtain ⟨places, h⟩ := ih
      have hlength := length_blocks lines
      rw [ofLines_concat]
      have hrole := reads_roleOf line
      generalize roleOf line = role at hrole ⊢
      cases hrole with
      | blank hblank =>
          have hloose : startsLoose (lines ++ [line]) = startsLoose lines :=
            startsLoose_concat_of_not_ordinary (.inl hblank)
          refine ⟨places, ?_, h.ordered, ?_, ?_⟩
          · rw [content_concat_of_blank hblank]
            exact h.holds
          · rw [hloose]
            exact h.complete
          · rw [hloose]
            exact h.untitled
      | title hdelimiter =>
          refine ⟨_, h.title (fun hloose => ?_) hdelimiter⟩
          rw [hlength, hloose]
          exact Nat.succ_pos _
      | extraction hdelimiter hread => exact ⟨_, h.extraction hdelimiter hread⟩
      | test hne hordinary =>
          have hloose : startsLoose (lines ++ [line]) =
              (startsLoose lines || titleCount lines == 0) :=
            startsLoose_concat_of_ordinary hne hordinary
          rcases List.eq_nil_or_concat (ofLines lines).blocks with hnil | ⟨front, last, hconcat⟩
          · rw [hnil] at hlength
            have hzero : titleCount lines = 0 := (Nat.add_eq_zero_iff.mp hlength.symm).1
            refine ⟨_, h.test_nil hnil hne hordinary ?_⟩
            rw [hloose, hzero, beq_self_eq_true, Bool.or_true]
          · rw [List.concat_eq_append] at hconcat
            refine ⟨_, h.test_concat hconcat hne hordinary ?_⟩
            rw [hloose]
            -- the last block has a title, or it is the one that a test has opened
            cases hstart : startsLoose lines with
            | true => rfl
            | false =>
                rw [hconcat, hstart, List.length_append] at hlength
                have hne : titleCount lines ≠ 0 := by
                  intro hzero
                  rw [hzero] at hlength
                  cases hlength
                rw [Bool.false_or, beq_eq_false_iff_ne]
                exact hne

/-- Blank lines are no titles. -/
theorem titleCount_eq (lines : List (List Char)) :
    titleCount lines = lines.countP Line.isTestDelimiter := by
  induction lines with
  | nil => rfl
  | cons line lines ih =>
      rw [titleCount] at ih ⊢
      rw [List.countP_cons, ← ih, ← Line.isTestDelimiter_trim line]
      by_cases hblank : trim line = []
      · rw [Text.content_cons_of_blank hblank, hblank]
        rfl
      · rw [Text.content_cons_of_ne_nil hblank, List.countP_cons]

/-- A zone is cut in two by a title. -/
theorem ofLines_append {line : List Char} (h : Line.isTestDelimiter line = true)
    (front back : List (List Char)) :
    ofLines (front ++ line :: back) =
      ⟨(ofLines front).blocks ++ (ofLines (line :: back)).blocks,
        (ofLines front).extractions ++ (ofLines (line :: back)).extractions⟩ := by
  -- the tests up to the first title are none
  have hloose : (blocksOf ((line :: back).map roleOf)).1 = [] := by
    rw [List.map_cons, roleOf_of_isTestDelimiter h]
    rfl
  have hback : ∀ z : TestZone, (line :: back).foldl (fun z line => z.add (roleOf line)) z =
      ⟨z.blocks ++ (blocksOf ((line :: back).map roleOf)).2,
        z.extractions ++ extractionsOf ((line :: back).map roleOf)⟩ := by
    intro z
    rw [← List.foldl_map (f := roleOf) (g := add), foldl_add, hloose]
    rfl
  rw [ofLines_eq_foldl (front ++ line :: back), List.foldl_append, ← ofLines_eq_foldl, hback,
    ofLines_eq_foldl (line :: back), hback]
  rfl

/-- **Sorted lines**: each line of a zone that is not blank has one place, as a title, among the
lines of the block that is open or as an extraction, in the order of the lines, and there are no
other places.  There are as many blocks as titles, and one more if and only if an ordinary line
comes before the first of them.  A title cuts a zone in two. -/
theorem ofLines_sorted :
    (∀ lines, ∃ places, (ofLines lines).Sorts lines places) ∧
    (∀ lines, (ofLines lines).blocks.length =
      lines.countP Line.isTestDelimiter + if startsLoose lines then 1 else 0) ∧
    ∀ front line back, Line.isTestDelimiter line = true →
      ofLines (front ++ line :: back) =
        ⟨(ofLines front).blocks ++ (ofLines (line :: back)).blocks,
          (ofLines front).extractions ++ (ofLines (line :: back)).extractions⟩ := by
  refine ⟨exists_sorts, fun lines => ?_, fun front line back h => ofLines_append h front back⟩
  rw [length_blocks, titleCount_eq]

/-- A test before the first title, and an extraction between two tests. -/
theorem ofLines_sorted_untitled :
    Line.isTestDelimiter " #### Body #".toList = true ∧
      ofLines (["status == 200".toList] ++ " #### Body #".toList ::
          ["body exists".toList, "@id = $.id".toList, "body.id exists".toList]) =
        ⟨[⟨"", ["status == 200"]⟩, ⟨"Body #", ["body exists", "body.id exists"]⟩],
          [.pathExtraction "id" "$.id"]⟩ := by
  have h : Line.isTestDelimiter " #### Body #".toList = true := by decide
  exact ⟨h, (ofLines_sorted.2.2 _ _ _ h).trans rfl⟩

end TestZone

end HttpSuite
