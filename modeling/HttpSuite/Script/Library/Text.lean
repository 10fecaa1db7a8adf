/-
HttpSuite/Script/Library/Text.lean

The functions on texts. Positions count units of 16 bits.
-/
import HttpSuite.Script.Library.Array
import HttpSuite.Text.Case

namespace HttpSuite.Script

/-- The text of units. -/
def textOfUnits (us : List Nat) : String := String.ofList (Text.ofUnits us)

/-- The first place of a piece in a list, from a place on. -/
def findPiece? (piece : List Nat) : List Nat → (place : Nat) → Option Nat
  | [], place => if piece.isEmpty then some place else none
  | c :: rest, place =>
    if piece.isPrefixOf (c :: rest) then some place else findPiece? piece rest (place + 1)

/-- The first place of a piece, at `start` or later. -/
def pieceFrom? (piece l : List Nat) (start : Nat) : Option Nat :=
  findPiece? piece (l.drop start) start

/-- The last place of a piece, at `start` or before. -/
def lastPiece? (piece l : List Nat) (start : Nat) : Option Nat :=
  ((List.range (min start l.length + 1)).filter fun i => piece.isPrefixOf (l.drop i)).getLast?

/-- The pieces of a list between marks. -/
def splitUnits (mark : List Nat) : (fuel : Nat) → List Nat → List (List Nat)
  | 0, l => [l]
  | fuel + 1, l =>
    match findPiece? mark l 0 with
    | none => [l]
    | some i => l.take i :: splitUnits mark fuel (l.drop (i + mark.length))

/-- Units up to a length, repeated from a filling. -/
def filling (fill : List Nat) (count : Nat) : List Nat :=
  if fill.isEmpty then []
  else ((List.replicate (count / fill.length + 1) fill).flatten).take count

/-- The text that a replacement stands for: two dollar signs are one, and a dollar sign with a mark
is the match or what is around it. -/
def expandReplacement (found before after : List Char) : List Char → List Char
  | [] => []
  | '$' :: '$' :: rest => '$' :: expandReplacement found before after rest
  | '$' :: '&' :: rest => found ++ expandReplacement found before after rest
  | '$' :: '`' :: rest => before ++ expandReplacement found before after rest
  | '$' :: '\'' :: rest => after ++ expandReplacement found before after rest
  | c :: rest => c :: expandReplacement found before after rest

/-- The text with the first match of a piece replaced. -/
def replaceFirst (s piece replacement : List Char) : List Char :=
  match Text.splitOnce? piece s with
  | none => s
  | some (before, after) => before ++ expandReplacement piece before after replacement ++ after

/-- The text with every match of a piece replaced. -/
def replaceEvery (piece replacement : List Char) : (fuel : Nat) → (before s : List Char) → List Char
  | 0, _, s => s
  | fuel + 1, before, s =>
    match Text.splitOnce? piece s with
    | none => s
    | some (skipped, after) =>
      let replaced := expandReplacement piece (before ++ skipped) after replacement
      if piece.isEmpty then
        match after with
        | [] => replaced
        | c :: rest => replaced ++ c :: replaceEvery piece replacement fuel (before ++ [c]) rest
      else
        skipped ++ replaced ++
          replaceEvery piece replacement fuel (before ++ skipped ++ piece) after

namespace Engine

/-- Calls a function on texts. -/
def callText (m : Engine) (f : StringFunction) (this : Value) (args : List Value) :
    Engine :=
  let first := argument args 0
  let second := argument args 1
  let s := m.heap.text this
  let us := Text.units s.toList
  let n := us.length
  let giveText (t : String) : Engine := m.give (.string t)
  let giveUnits (l : List Nat) : Engine := m.give (.string (textOfUnits l))
  let giveTest (b : Bool) : Engine := m.give (.bool b)
  let text (v : Value) : String := m.heap.text v
  let units (v : Value) : List Nat := Text.units (text v).toList
  let pad (atStart : Bool) : Engine :=
    let target := first.toWhole.toNat
    let fill := match second with | .undefined => [0x20] | v => units v
    let more := filling fill (target - n)
    giveUnits (if atStart then more ++ us else us ++ more)
  match f with
  | .constructor =>
    match args with
    | [] => giveText ""
    | v :: _ =>
      m.withPrimitive v (Heap.methodOrder true) .textOf fun p => m.give (.string p.toText)
  | .fromCharCode => giveUnits (args.map fun v => v.toNat32 % 65536)
  | .at =>
    match first.toWhole with
    | .ofNat i => m.give (if i < n then .string (textOfUnits [us[i]?.getD 0]) else .undefined)
    | .negSucc i =>
      m.give (if i < n then .string (textOfUnits [us[n - (i + 1)]?.getD 0]) else .undefined)
  | .charAt =>
    match first.toWhole with
    | .ofNat i => giveUnits (us[i]?).toList
    | _ => giveText ""
  | .charCodeAt =>
    match first.toWhole with
    | .ofNat i => m.give ((us[i]?.map fun u => Value.ofInt u).getD (.number .nan))
    | _ => m.give (.number .nan)
  | .codePointAt =>
    match first.toWhole with
    | .ofNat i =>
      m.give (((Text.ofUnits ((us.drop i).take 2)).head?.map fun c => Value.ofInt c.toNat).getD
        .undefined)
    | _ => m.finish
  | .concat => giveText (args.foldl (fun t v => t ++ text v) s)
  | .endsWith =>
    let stop := second.toPosition n n
    let piece := units first
    giveTest (piece.isSuffixOf (us.take stop))
  | .includes => giveTest (pieceFrom? (units first) us (second.toPosition n 0)).isSome
  | .indexOf =>
    let start := min second.toWhole.toNat n
    m.give (placeValue (pieceFrom? (units first) us start))
  | .lastIndexOf =>
    let start := match second.toNumber with | .nan => n | _ => second.toWhole.toNat
    m.give (placeValue (lastPiece? (units first) us start))
  | .padEnd => pad false
  | .padStart => pad true
  | .repeat =>
    match first.toWhole with
    | .ofNat k =>
      if k * n ≤ 2 ^ 24 then giveText (String.join (List.replicate k s))
      else m.raise .range "invalid string length"
    | _ => m.raise .range "invalid repeat count"
  | .replace =>
    giveText (String.ofList (replaceFirst s.toList (text first).toList (text second).toList))
  | .replaceAll =>
    giveText (String.ofList
      (replaceEvery (text first).toList (text second).toList (n + 2) [] s.toList))
  | .slice =>
    let start := first.toPosition n 0
    let stop := second.toPosition n n
    giveUnits ((us.take stop).drop start)
  | .substring =>
    let a := min first.toWhole.toNat n
    let b := match second with | .undefined => n | v => min v.toWhole.toNat n
    giveUnits ((us.take (max a b)).drop (min a b))
  | .substr =>
    let start := first.toPosition n 0
    let count := match second with | .undefined => n | v => v.toWhole.toNat
    giveUnits ((us.drop start).take count)
  | .split =>
    let limit := match second with | .undefined => 2 ^ 32 - 1 | v => v.toNat32
    match first with
    | .undefined => m.giveArray ([Value.string s].take limit)
    | v =>
      let mark := units v
      let pieces := if mark.isEmpty then us.map fun u => [u] else splitUnits mark (n + 1) us
      m.giveArray ((pieces.map fun p => Value.string (textOfUnits p)).take limit)
  | .startsWith =>
    let start := second.toPosition n 0
    giveTest ((units first).isPrefixOf (us.drop start))
  | .toLowerCase => giveText (String.ofList (Text.toSmall s.toList))
  | .toUpperCase => giveText (String.ofList (Text.toCapitals s.toList))
  | .toText => giveText s
  | .trim => giveText (String.ofList (Value.trimmed s))
  | .trimEnd => giveText (String.ofList (s.toList.reverse.dropWhile Value.isSpace).reverse)
  | .trimStart => giveText (String.ofList (s.toList.dropWhile Value.isSpace))

end Engine

end HttpSuite.Script
