/-
HttpSuite/Document/TestZone.lean

The tests of a section. A line with four number signs begins a block, whose title follows; the
other lines that are not blank belong to the block they stand in, extractions apart, which are
collected for the whole section.
-/
import HttpSuite.Document.Directive
import HttpSuite.Document.Section

namespace HttpSuite

/-- The blocks and the extractions of a test zone. -/
structure TestZone where
  blocks : List TestBlock
  extractions : List Directive
deriving DecidableEq, Repr

namespace TestZone

/-- What a line of a test zone is. -/
inductive LineRole where
  | blank
  | title (text : String)
  | extraction (d : Directive)
  | test (line : String)
deriving DecidableEq, Repr

/-- The role of a line. -/
def roleOf (line : List Char) : LineRole :=
  let line := Text.trim line
  if line.isEmpty then .blank
  else if Line.isTestDelimiter line then
    .title (String.ofList (Text.trim (line.dropWhile (· == '#'))))
  else
    match Directive.ofLine? line with
    | some (.ok (.pathExtraction key path)) => .extraction (.pathExtraction key path)
    | _ => .test (String.ofList line)

/-- The lines up to the first title, and the blocks from there on. -/
def blocksOf : List LineRole → List String × List TestBlock
  | [] => ([], [])
  | role :: rest =>
    let (lines, blocks) := blocksOf rest
    match role with
    | .title text => ([], ⟨text, lines⟩ :: blocks)
    | .test line => (line :: lines, blocks)
    | _ => (lines, blocks)

/-- The extractions of a list of roles. -/
def extractionsOf (roles : List LineRole) : List Directive :=
  roles.filterMap fun
    | .extraction d => some d
    | _ => none

/-- The test zone with these lines. Lines before the first title make a block without a title. -/
def ofLines (lines : List (List Char)) : TestZone :=
  let roles := lines.map roleOf
  let (loose, blocks) := blocksOf roles
  ⟨if loose.isEmpty then blocks else ⟨"", loose⟩ :: blocks, extractionsOf roles⟩

end TestZone

end HttpSuite
