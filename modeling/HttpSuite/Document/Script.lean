/-
HttpSuite/Document/Script.lean

Finding the scripts of a section. A script stands between braces with percent signs, after a `<`
when it runs before the request and after a `>` when it runs after the response, on one line or on
several; or the path of a file with it stands after the sign. One pass over the lines both takes
the scripts out and keeps the other lines, so that what is taken and what is kept agree.
-/
import HttpSuite.Document.Unit
import HttpSuite.Text.Lines
import HttpSuite.Text.Search

namespace HttpSuite

/-- What the scripts of a text are, and what is left of it. -/
structure ScriptScan where
  blocks : List ScriptBlock
  /-- The lines that belong to no script. -/
  kept : List (List Char)
  /-- The numbers of the lines with a script that is never closed, from zero. -/
  unterminated : List Nat
deriving Repr

namespace ScriptScan

/-- The end of a script. -/
def closeMark : List Char := ['%', '\x7d']

/-- The start of the text of a script, after its sign. -/
def openMark : List Char := ['\x7b', '%']

/-- The tail of the paths of scripts. -/
def scriptTail : List Char := ".js".toList

/-- The phase of a sign. -/
def phaseOf? (sign : Char) : Option ScriptPhase :=
  if sign = '<' then some .preRequest else if sign = '>' then some .postResponse else none

/-- The phase of a trimmed line that opens a script, and what follows the mark. -/
def opening? : List Char → Option (ScriptPhase × List Char)
  | [] => none
  | sign :: rest =>
    match phaseOf? sign with
    | none => none
    | some phase => (Text.stripStart? openMark (Text.trimStart rest)).map (phase, ·)

/-- The phase and path of a trimmed text that is a sign, blanks and one word. -/
def fileReference? : List Char → Option (ScriptPhase × List Char)
  | [] => none
  | sign :: rest =>
    match phaseOf? sign with
    | none => none
    | some phase =>
      let path := Text.trimStart rest
      if path.length < rest.length && !path.isEmpty && path.all (!Text.isBlank ·) then
        some (phase, path)
      else none

/-- The path of a file with a script, in a trimmed line. -/
def scriptFile? (line : List Char) : Option (ScriptPhase × List Char) :=
  (fileReference? line).filter fun (phase, path) =>
    phase = .postResponse || Text.endsWith scriptTail path

/-- The path of a file with a request body. -/
def bodyFile? (text : List Char) : Option String :=
  match fileReference? (Text.trim text) with
  | some (.preRequest, path) =>
    if Text.endsWith scriptTail path || Text.startsWith openMark path then none
    else some (String.ofList path)
  | _ => none

/-- What comes before the mark that closes a script at the end of a line. -/
def beforeClose? (line : List Char) : Option (List Char) :=
  Text.stripEnd? closeMark (Text.trimEnd line)

/-- The lines before the first one that closes a script, what that one has before the mark, and the
lines after it. -/
def splitAtClose? : List (List Char) → Option (List (List Char) × List Char × List (List Char))
  | [] => none
  | line :: rest =>
    match beforeClose? line with
    | some last => some ([], last, rest)
    | none => (splitAtClose? rest).map fun (body, last, after) => (line :: body, last, after)

theorem length_lt_of_splitAtClose? {lines body after : List (List Char)} {last : List Char}
    (h : splitAtClose? lines = some (body, last, after)) : after.length < lines.length := by
  induction lines generalizing body with
  | nil => simp [splitAtClose?] at h
  | cons line rest ih =>
    simp only [splitAtClose?] at h
    split at h
    · obtain ⟨-, -, rfl⟩ : [] = body ∧ _ = last ∧ rest = after := by simpa using h
      simp
    · obtain ⟨⟨b, l, a⟩, hp, he⟩ := Option.map_eq_some_iff.1 h
      obtain ⟨-, rfl, rfl⟩ : _ ∧ l = last ∧ a = after := by simpa using he
      have := ih hp
      simp only [List.length_cons]
      omega

/-- A script with this text. -/
def inlineBlock (phase : ScriptPhase) (source : List Char) : ScriptBlock :=
  ⟨phase, .inline (String.ofList (Text.trim source))⟩

/-- The text of a script on several lines. -/
def joinBody (first : List Char) (body : List (List Char)) (last : List Char) : List Char :=
  Text.unlines ((if Text.isBlankText first then [] else [first]) ++ body ++ [last])

/-- A scan with one more script in front. -/
def addBlock (b : ScriptBlock) (s : ScriptScan) : ScriptScan := { s with blocks := b :: s.blocks }

/-- A scan with one more line in front that belongs to no script. -/
def keep (line : List Char) (s : ScriptScan) : ScriptScan := { s with kept := line :: s.kept }

/-- A scan with one more script in front that is never closed; its line is kept. -/
def keepOpen (index : Nat) (line : List Char) (s : ScriptScan) : ScriptScan :=
  { s with kept := line :: s.kept, unterminated := index :: s.unterminated }

/-- Scans lines, the first of which has the number `index`. -/
def ofLines (index : Nat) (lines : List (List Char)) : ScriptScan :=
  match lines with
  | [] => ⟨[], [], []⟩
  | line :: rest =>
    match opening? (Text.trim line) with
    | some (phase, first) =>
      match beforeClose? first with
      | some source => (ofLines (index + 1) rest).addBlock (inlineBlock phase source)
      | none =>
        match h : splitAtClose? rest with
        | some (body, last, after) =>
          have := length_lt_of_splitAtClose? h
          (ofLines (index + body.length + 2) after).addBlock
            (inlineBlock phase (joinBody first body last))
        | none => (ofLines (index + 1) rest).keepOpen index line
    | none =>
      match scriptFile? (Text.trim line) with
      | some (phase, path) =>
        (ofLines (index + 1) rest).addBlock ⟨phase, .file (String.ofList path)⟩
      | none => (ofLines (index + 1) rest).keep line
termination_by lines.length

/-- Scans a text. -/
def ofText (text : List Char) : ScriptScan := ofLines 0 (Text.lines text)

/-- What is left of the text. -/
def remaining (s : ScriptScan) : List Char := Text.unlines s.kept

/-- The scripts of a phase, in order. -/
def scripts (s : ScriptScan) (phase : ScriptPhase) : List ScriptReference :=
  (s.blocks.filter (·.phase = phase)).map (·.reference)

end ScriptScan

end HttpSuite
