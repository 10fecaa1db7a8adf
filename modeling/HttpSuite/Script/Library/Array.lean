/-
HttpSuite/Script/Library/Array.lean

The functions on arrays. A function that calls another one for each element waits in a frame
between the calls and sees the array as it is then.
-/
import HttpSuite.Script.Library.Object

namespace HttpSuite.Script

namespace Engine

/-- Ends with a new array. -/
def giveArray (m : Engine) (l : List Value) : Engine :=
  m.giveNew (m.heap.makeArray l)

/-- Gives an array other elements, or throws because it cannot be changed. -/
def setItems (m : Engine) (array : Value) (l : List Value) (fault : Fault)
    (result : Engine → Engine) : Engine :=
  match array with
  | .object r =>
    match (m.heap.object r).kind, (m.heap.object r).extensible with
    | .array old true, extensible =>
      if !extensible && old.size < l.length then m.raise .type "object is not extensible"
      else
        result { m with
          heap := m.heap.modify r fun o => { o with kind := .array (l.map some).toArray true } }
    | _, _ => m.fail fault
  | _ => m.fail fault

/-- The element of an array at an index, as it is now. -/
def itemAt? (m : Engine) (array : Value) (i : Nat) : Option Value :=
  match array with
  | .object r =>
    match (m.heap.object r).kind with
    | .array items _ => (items[i]?).join
    | _ => none
  | _ => none

namespace Walking

/-- Whether a function is also called for holes. -/
def seesHoles : Walk → Bool
  | .find | .findIndex | .findLast | .findLastIndex => true
  | _ => false

/-- The place of the element that comes at a turn. -/
def place (w : Walk) (index count : Nat) : Nat :=
  match w with
  | .findLast | .findLastIndex => count - 1 - index
  | _ => index

end Walking

/-- Arrays taken apart, other values as they are, down to a depth. -/
def flatten (h : Heap) : (depth : Nat) → List Value → List Value
  | 0, l => l
  | depth + 1, l => l.flatMap fun v =>
      match h.items? v with
      | some inner => flatten h depth inner
      | none => [v]

/-- What a function for each element gives at the end. The results stand last first. -/
def endWalk (m : Engine) (w : Walk) (done : List Value) : Engine :=
  match w with
  | .every => m.give (.bool true)
  | .some => m.give (.bool false)
  | .forEach | .find | .findLast => m.finish
  | .findIndex | .findLastIndex => m.give (.ofInt (-1))
  | .filter | .map => m.giveArray done.reverse
  | .flatMap => m.giveArray (flatten m.heap 1 done.reverse)

/-- Calls the function for the next element that is there. -/
def walkOn (m : Engine) (w : Walk) (f this array : Value) (done : List Value)
    (count : Nat) : (left : Nat) → Engine
  | 0 => m.endWalk w done
  | left + 1 =>
    let index := count - (left + 1)
    let i := Walking.place w index count
    match m.itemAt? array i with
    | some v =>
      (m.push (.walk w f this array index count v done)).call f this [v, .ofInt i, array]
    | none =>
      if Walking.seesHoles w then
        (m.push (.walk w f this array index count .undefined done)).call f this
          [.undefined, .ofInt i, array]
      else m.walkOn w f this array done count left

/-- Goes on after the function has given a value for an element. -/
def walked (m : Engine) (w : Walk) (f this array : Value) (index count : Nat)
    (element : Value) (done : List Value) (v : Value) : Engine :=
  let on (done : List Value) := m.walkOn w f this array done count (count - (index + 1))
  let i := Walking.place w index count
  match w with
  | .every => if v.truthy then on done else m.give (.bool false)
  | .some => if v.truthy then m.give (.bool true) else on done
  | .forEach => on done
  | .find | .findLast => if v.truthy then m.give element else on done
  | .findIndex | .findLastIndex => if v.truthy then m.give (.ofInt i) else on done
  | .filter => on (if v.truthy then element :: done else done)
  | .map | .flatMap => on (v :: done)

/-- Folds on with the elements that are left. -/
def foldOn (m : Engine) (f array v : Value) : List (Nat × Value) → Engine
  | [] => m.give v
  | (i, x) :: rest =>
    (m.push (.fold f array rest)).call f .undefined [v, x, .ofInt i, array]

/-- Puts the next item among the sorted ones. -/
def sortOn (m : Engine) (f : Value) (array : Ref) (sorted : List Value) :
    List Value → Engine
  | [] =>
    m.setItems (.object array) sorted.reverse (Heap.readOnly "0") (·.give (.object array))
  | item :: rest =>
    match sorted with
    | [] => m.sortOn f array [item] rest
    | x :: _ => (m.push (.sorting f array [] item sorted rest)).call f .undefined [x, item]

/-- Goes on after a comparison of the last sorted item with the one that is put among them. -/
def compared (m : Engine) (f : Value) (array : Ref) (above : List Value) (item : Value)
    (sorted rest : List Value) (v : Value) : Engine :=
  match sorted with
  | [] => m.sortOn f array (above.reverse ++ [item]) rest
  | x :: lower =>
    if Binary64.below .zero (m.heap.number v) then
      match lower with
      | [] => m.sortOn f array ((x :: above).reverse ++ [item]) rest
      | y :: _ =>
        (m.push (.sorting f array (x :: above) item lower rest)).call f .undefined [y, item]
    else m.sortOn f array (above.reverse ++ item :: sorted) rest

/-- Puts a value among values that are sorted by their texts. -/
def insertByText (h : Heap) (v : Value) : List Value → List Value
  | [] => [v]
  | w :: rest =>
    if Value.unitsBefore (Text.units (h.text v).toList) (Text.units (h.text w).toList) then
      v :: w :: rest
    else w :: insertByText h v rest

/-- The first place of a value, from an index on. -/
def placeOf? (p : Value → Bool) (l : List Value) (start : Nat) : Option Nat :=
  ((l.drop start).findIdx? p).map (· + start)

/-- A place, or minus one. -/
def placeValue : Option Nat → Value
  | some i => .ofInt i
  | none => .ofInt (-1)

/-- Makes an array for a class: of a length, or with elements. -/
def constructArray (m : Engine) (args : List Value) (target : Value) : Engine :=
  let make (items : Array (Option Value)) : Engine :=
    m.giveNew (m.heap.make
      { parent := some (m.prototypeOf target Library.arrays), kind := .array items true })
  match args with
  | [.number x] =>
    match x.toInt? with
    | some (.ofNat k) =>
      if k ≤ Object.maxGap then make (Array.replicate k none)
      else m.raise .range "invalid array length"
    | _ => m.raise .range "invalid array length"
  | _ => make (args.map some).toArray

/-- Calls a function on arrays. -/
def callArray (m : Engine) (f : ArrayFunction) (this : Value) (args : List Value) :
    Engine :=
  let first := argument args 0
  let second := argument args 1
  let l := (m.heap.items? this).getD []
  let n := l.length
  let walk (w : Walk) : Engine :=
    if m.heap.isCallable first then m.walkOn w first second this [] n n
    else m.raise .type "not a function"
  let fold (indexed : List (Nat × Value)) : Engine :=
    if !m.heap.isCallable first then m.raise .type "not a function"
    else
      match args.tail, indexed with
      | v :: _, indexed => m.foldOn first this v indexed
      | [], (_, v) :: rest => m.foldOn first this v rest
      | [], [] => m.raise .type "empty array"
  let indexed : List (Nat × Value) := (List.range n).zip l
  match f with
  | .constructor => m.constructArray args .undefined
  | .fromList =>
    let source : Except Fault (List Value) :=
      match first with
      | .object r =>
        match m.heap.items? first with
        | some l => .ok l
        | none =>
          let count := (m.heap.get (.object r) "length").toWhole.toNat
          .ok ((List.range (min count Object.maxGap)).map fun i =>
            m.heap.get first (toString i))
      | v => m.listOf v
    match source with
    | .error fault => m.fail fault
    | .ok l =>
      let (array, heap) := m.heap.makeArray l
      let m := { m with heap }
      match second with
      | .undefined => m.give array
      | g =>
        if m.heap.isCallable g then m.walkOn .map g .undefined array [] l.length l.length
        else m.raise .type "not a function"
  | .isArray => m.give (.bool (m.heap.items? first).isSome)
  | .of => m.giveArray args
  | .at =>
    match first.toWhole with
    | .ofNat i => m.give (l[i]?.getD .undefined)
    | .negSucc i => m.give (if i < n then l[n - (i + 1)]?.getD .undefined else .undefined)
  | .concat =>
    m.giveArray (l ++ args.flatMap fun v => (m.heap.items? v).getD [v])
  | .every => walk .every
  | .filter => walk .filter
  | .find => walk .find
  | .findIndex => walk .findIndex
  | .findLast => walk .findLast
  | .findLastIndex => walk .findLastIndex
  | .flatMap => walk .flatMap
  | .forEach => walk .forEach
  | .map => walk .map
  | .some => walk .some
  | .fill =>
    let start := second.toPosition n 0
    let stop := (argument args 2).toPosition n n
    m.setItems this (indexed.map fun (i, v) => if start ≤ i ∧ i < stop then first else v)
      (Heap.readOnly (toString start)) (·.give this)
  | .flat =>
    let depth := match first with | .undefined => 1 | v => v.toWhole.toNat
    m.giveArray (flatten m.heap (min depth Heap.textDepth) l)
  | .includes =>
    m.give (.bool (placeOf? (·.sameOrNan first) l (second.toPosition n 0)).isSome)
  | .indexOf => m.give (placeValue (placeOf? (·.same first) l (second.toPosition n 0)))
  | .lastIndexOf =>
    m.give (placeValue ((placeOf? (·.same first) l.reverse 0).map fun i => n - 1 - i))
  | .join =>
    let mark := match first with | .undefined => "," | v => m.heap.text v
    m.give (.string (String.intercalate mark
      (l.map fun v => if v.isNothing then "" else m.heap.text v)))
  | .toText =>
    m.give (.string (String.intercalate ","
      (l.map fun v => if v.isNothing then "" else m.heap.text v)))
  | .pop =>
    match l.getLast? with
    | none => m.finish
    | some v =>
      m.setItems this l.dropLast (.error .type "could not delete property") (·.give v)
  | .push =>
    m.setItems this (l ++ args) (.error .type "object is not extensible")
      (·.give (.ofInt (n + args.length)))
  | .shift =>
    match l with
    | [] => m.finish
    | v :: rest => m.setItems this rest (Heap.readOnly "0") (·.give v)
  | .unshift =>
    m.setItems this (args ++ l) (.error .type "object is not extensible")
      (·.give (.ofInt (n + args.length)))
  | .reduce => fold indexed
  | .reduceRight => fold indexed.reverse
  | .reverse => m.setItems this l.reverse (Heap.readOnly "0") (·.give this)
  | .slice =>
    let start := first.toPosition n 0
    let stop := second.toPosition n n
    m.giveArray ((l.take stop).drop start)
  | .splice =>
    let start := first.toPosition n 0
    let count :=
      match args with
      | [] => 0
      | [_] => n - start
      | _ => min second.toWhole.toNat (n - start)
    let removed := (l.drop start).take count
    m.setItems this (l.take start ++ args.drop 2 ++ l.drop (start + count))
      (Heap.readOnly (toString start)) (·.giveArray removed)
  | .sort =>
    let (undefinedOnes, others) := l.partition (· == .undefined)
    match this, first with
    | .object _, .undefined =>
      let sorted := others.foldl (fun done v => insertByText m.heap v done) []
      m.setItems this (sorted ++ undefinedOnes) (Heap.readOnly "0") (·.give this)
    | .object r, g =>
      if m.heap.isCallable g then m.sortOn g r [] l else m.raise .type "not a function"
    | v, _ => m.give v

end Engine

end HttpSuite.Script
