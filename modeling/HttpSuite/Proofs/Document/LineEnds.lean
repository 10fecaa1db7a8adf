/-
HttpSuite/Proofs/Document/LineEnds.lean

Documents with other ends of lines.  Some editors put a carriage return in front of each line feed.
A line does not hold the return at its end, but a document is not read line by line from the start:
its comments are dropped first, over the ends of lines.  The marks of comments hold no end of a
line, so dropping comments and putting returns into a text commute,

    stripComments (withReturns s) = withReturns (stripComments s)

and what is left has the lines that it has without returns (`lines_withReturns`).  The sections of
the two documents are therefore the same ones (`split_withReturns`), texts included.

Main result: with and without returns, a document is compiled to the same units, with the same
diagnostics, and leaves the same variables (`compile_withReturns`).
-/
import HttpSuite.Document.Compile
import HttpSuite.Proofs.Text.Lines

namespace HttpSuite

namespace Text

/-- A text with a carriage return in front of each line feed. -/
def withReturns (s : List Char) : List Char :=
  s.flatMap fun c => if c = '\n' then ['\r', '\n'] else [c]

@[simp] theorem withReturns_nil : withReturns [] = [] := rfl

@[simp] theorem withReturns_feed (s : List Char) :
    withReturns ('\n' :: s) = '\r' :: '\n' :: withReturns s := rfl

theorem withReturns_cons {c : Char} (h : c ≠ '\n') (s : List Char) :
    withReturns (c :: s) = c :: withReturns s := by
  simp [withReturns, h]

theorem withReturns_append (s t : List Char) :
    withReturns (s ++ t) = withReturns s ++ withReturns t :=
  List.flatMap_append

/-- A line is kept. -/
theorem withReturns_eq_self {l : List Char} (h : '\n' ∉ l) : withReturns l = l := by
  induction l with
  | nil => rfl
  | cons c l ih =>
      obtain ⟨hc, hl⟩ := List.ne_and_not_mem_of_not_mem_cons h
      rw [withReturns_cons hc.symm, ih hl]

/-! ### Lines -/

/-- The returns that are put into a text belong to the ends of its lines. -/
theorem lines_withReturns {s : List Char} (h : '\r' ∉ s) : lines (withReturns s) = lines s := by
  induction hlength : s.length using Nat.strongRecOn generalizing s with
  | ind length ih =>
      by_cases hfeed : '\n' ∈ s
      · obtain ⟨l, t, rfl, hl⟩ := List.eq_append_cons_of_mem hfeed
        have hreturn : '\r' ∉ l := fun hmem => h (List.mem_append_left _ hmem)
        have ht : lines (withReturns t) = lines t := by
          refine ih t.length ?_ (fun hmem => h (by simp [hmem])) rfl
          rw [← hlength, List.length_append, List.length_cons]
          omega
        have hline : '\n' ∉ l ++ ['\r'] := by simpa using hl
        calc lines (withReturns (l ++ '\n' :: t))
            = lines ((l ++ ['\r']) ++ '\n' :: withReturns t) := by
              rw [withReturns_append, withReturns_feed, withReturns_eq_self hl, List.append_assoc,
                List.singleton_append]
          _ = l :: lines t := by rw [lines_append_feed hline, dropReturn_concat, ht]
          _ = lines (l ++ '\n' :: t) := by rw [lines_append_feed hl, dropReturn_eq_self hreturn]
      · rw [withReturns_eq_self hfeed]

/-! ### Marks -/

section Marks

variable {mark : List Char} (noFeed : '\n' ∉ mark) (noReturn : '\r' ∉ mark)
include noFeed noReturn

/-- A mark within a line is found in front of a text wherever its lines end. -/
theorem stripStart?_withReturns (s : List Char) :
    stripStart? mark (withReturns s) = (stripStart? mark s).map withReturns := by
  induction mark generalizing s with
  | nil => rfl
  | cons a mark ih =>
      obtain ⟨hfeed, hmark⟩ := List.ne_and_not_mem_of_not_mem_cons noFeed
      obtain ⟨hreturn, hmark'⟩ := List.ne_and_not_mem_of_not_mem_cons noReturn
      cases s with
      | nil => rfl
      | cons c s =>
          by_cases hc : c = '\n'
          · subst hc
            simp [stripStart?, hfeed.symm, hreturn.symm]
          · rw [withReturns_cons hc, stripStart?, stripStart?]
            split
            · exact ih hmark hmark' s
            · rfl

/-- A text is cut at the same mark wherever its lines end. -/
theorem splitOnce?_withReturns (hne : mark ≠ []) (s : List Char) :
    splitOnce? mark (withReturns s) =
      (splitOnce? mark s).map fun cut => (withReturns cut.1, withReturns cut.2) := by
  obtain ⟨a, mark, rfl⟩ := List.exists_cons_of_ne_nil hne
  induction s with
  | nil => rfl
  | cons c s ih =>
      have hstart := stripStart?_withReturns noFeed noReturn (c :: s)
      by_cases hc : c = '\n'
      · subst hc
        -- the mark starts neither at the return nor at the line feed
        have hfeed := (List.ne_and_not_mem_of_not_mem_cons noFeed).1.symm
        have hreturn := (List.ne_and_not_mem_of_not_mem_cons noReturn).1.symm
        simp only [withReturns_feed, splitOnce?, stripStart?, if_neg hfeed, if_neg hreturn, ih,
          Option.map_map]
        rfl
      · rw [withReturns_cons hc] at hstart ⊢
        rw [splitOnce?, splitOnce?, hstart]
        cases stripStart? (a :: mark) (c :: s) with
        | some rest => rfl
        | none =>
            simp only [Option.map_none, ih, Option.map_map]
            refine congrArg (Option.map · _) (funext fun cut => ?_)
            simp [withReturns_cons hc]

end Marks

end Text

open Text (withReturns withReturns_nil withReturns_cons withReturns_feed)

/-! ### Comments -/

namespace Section

theorem afterCommentEnd?_withReturns (s : List Char) :
    afterCommentEnd? (withReturns s) = (afterCommentEnd? s).map withReturns := by
  rw [afterCommentEnd?, afterCommentEnd?,
    Text.splitOnce?_withReturns (by decide) (by decide) (by simp), Option.map_map, Option.map_map]
  rfl

/-- Comments are dropped alike wherever the lines of a text end. -/
theorem stripComments_withReturns (s : List Char) :
    stripComments (withReturns s) = withReturns (stripComments s) := by
  fun_induction stripComments s with
  | case1 => rw [withReturns_nil, stripComments]
  | case2 rest after hend hle ih =>
      have hend' := afterCommentEnd?_withReturns rest
      rw [hend] at hend'
      rw [withReturns_cons (by decide), withReturns_cons (by decide), stripComments_of_closed hend',
        ih]
  | case3 rest hnone ih =>
      have hnone' := afterCommentEnd?_withReturns rest
      rw [hnone] at hnone'
      rw [withReturns_cons (by decide)] at ih
      rw [withReturns_cons (by decide), withReturns_cons (by decide), stripComments_of_open hnone',
        ih, withReturns_cons (by decide)]
  | case4 c rest hstart ih =>
      by_cases hc : c = '\n'
      · subst hc
        rw [withReturns_feed, stripComments_cons (by simp), stripComments_cons (by simp), ih,
          withReturns_feed]
      · have hstart' : ∀ rest', c = '/' → withReturns rest = '*' :: rest' → False := by
          intro rest' hslash hstar
          -- the star is the first character of the text without returns, too
          cases rest with
          | nil => simp at hstar
          | cons d rest =>
              by_cases hd : d = '\n'
              · simp [hd] at hstar
              · rw [withReturns_cons hd] at hstar
                exact hstart rest hslash (by rw [(List.cons.inj hstar).1])
        rw [withReturns_cons hc, stripComments_cons hstart', ih, withReturns_cons hc]

/-- A document falls into the same sections wherever its lines end. -/
theorem split_withReturns {content : List Char} (h : '\r' ∉ content) :
    split (withReturns content) = split content := by
  have hreturn : '\r' ∉ stripComments content := fun hmem =>
    h ((stripComments_sublist content).subset hmem)
  rw [split, split, stripComments_withReturns, Text.lines_withReturns hreturn]

end Section

/-! ### Documents -/

/-- **Line ends**: a document without carriage returns is compiled to the same units, with the same
diagnostics, and leaves the same variables when a carriage return is put in front of each of its
line feeds. -/
theorem Document.compile_withReturns (w : World) (st : VariableState) {content : String}
    (h : '\r' ∉ content.toList) :
    Document.compile w st (String.ofList (withReturns content.toList)) =
      Document.compile w st content := by
  rw [Document.compile, Document.compile, String.toList_ofList, Section.split_withReturns h]

/-- A document whose comment, script and body go over the ends of lines. -/
theorem Document.compile_withReturns_comment :
    let content := "@a = 1\n### x\nPOST /\n\nhi/* b\n */\n lo\n> \x7b%\nf()\ng()\n%\x7d"
    let compiled := Document.compile {} {} (String.ofList (withReturns content.toList))
    let u : RequestUnit := {
      name := "x"
      method := some .post
      target := "/"
      body := .inline "hi\n lo"
      postScripts := [.inline "f()\ng()"] }
    '\r' ∉ content.toList ∧ compiled = Document.compile {} {} content ∧ compiled.1.units = [u] := by
  intro content compiled u
  have hreturn : '\r' ∉ content.toList := by decide
  have hcompiled : compiled = Document.compile {} {} content :=
    Document.compile_withReturns {} {} hreturn
  refine ⟨hreturn, hcompiled, ?_⟩
  rw [hcompiled]
  decide +kernel

end HttpSuite
