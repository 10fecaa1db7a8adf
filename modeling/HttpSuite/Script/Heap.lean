/-
HttpSuite/Script/Heap.lean

The objects of a script and their properties. What a script makes lies in cells; the objects that it
is given are kept apart from them, and can be read and changed as others can. Every change of an
object goes through `Heap.modify`.
-/
import HttpSuite.Script.Value
import HttpSuite.Text.Units

namespace HttpSuite.Script

/-! ### Keys -/

/-- The greatest index of an array. -/
def maxIndex : Nat := 2 ^ 32 - 2

/-- The index that a key is the plain written form of. -/
def indexOfKey? (key : String) : Option Nat :=
  match key.toList with
  | [] => none
  | ['0'] => some 0
  | '0' :: _ => none
  | cs =>
    if 10 < cs.length then none
    else
      match Ascii.natOfDigits? cs with
      | some n => if n ≤ maxIndex then some n else none
      | none => none

/-- Puts an index at its place among ascending ones. -/
def placeIndex (n : Nat) : List Nat → List Nat
  | [] => [n]
  | m :: rest => if n ≤ m then n :: m :: rest else m :: placeIndex n rest

/-- The keys that are indices, in ascending order, and then the others as they stand. -/
def indicesFirst (keys : List String) : List String :=
  ((keys.filterMap indexOfKey?).foldr placeIndex []).map toString ++
    keys.filter fun k => (indexOfKey? k).isNone

/-! ### Objects by themselves -/

namespace Object

/-- The property of an object itself. -/
def own? (o : Object) (key : String) : Option Slot :=
  match o.kind with
  | .array items writable =>
    if key = "length" then some ⟨.ofInt items.size, writable, false, false⟩
    else
      match indexOfKey? key with
      | none => Table.find? key o.slots
      | some i =>
        match items[i]? with
        | some (some v) => some ⟨v, writable, true, writable⟩
        | _ => Table.find? key o.slots
  | _ => Table.find? key o.slots

/-- Gives a slot a value, or adds one. -/
def putSlot (key : String) (v : Value) : List (String × Slot) → List (String × Slot)
  | [] => [(key, ⟨v, true, true, true⟩)]
  | (k, s) :: rest =>
    if k = key then (k, { s with value := v }) :: rest else (k, s) :: putSlot key v rest

/-- How far beyond its end an array still grows by being filled up. -/
def maxGap : Nat := 1000000

/-- The elements with one more at an index. -/
def putItem (items : Array (Option Value)) (i : Nat) (v : Value) : Array (Option Value) :=
  if i < items.size then items.setIfInBounds i (some v)
  else (items ++ Array.replicate (i - items.size) none).push (some v)

/-- The elements with another length. -/
def resize (items : Array (Option Value)) (n : Nat) : Array (Option Value) :=
  if n ≤ items.size then items.take n else items ++ Array.replicate (n - items.size) none

/-- Gives a property of the object itself a value, or adds one. -/
def put (o : Object) (key : String) (v : Value) : Object :=
  match o with
  | ⟨parent, extensible, slots, .array items writable⟩ =>
    match indexOfKey? key with
    | some i =>
      if i < items.size + maxGap then
        ⟨parent, extensible, slots, .array (putItem items i v) writable⟩
      else ⟨parent, extensible, putSlot key v slots, .array items writable⟩
    | none =>
      if key = "length" then
        match v with
        | .number x =>
          match x.toInt? with
          | some (.ofNat n) =>
            if n < items.size + maxGap then
              ⟨parent, extensible, slots, .array (resize items n) writable⟩
            else ⟨parent, extensible, slots, .array items writable⟩
          | _ => ⟨parent, extensible, slots, .array items writable⟩
        | _ => ⟨parent, extensible, slots, .array items writable⟩
      else ⟨parent, extensible, putSlot key v slots, .array items writable⟩
  | ⟨parent, extensible, slots, kind⟩ => ⟨parent, extensible, putSlot key v slots, kind⟩

/-- Adds a property that is not listed. -/
def putHidden (o : Object) (key : String) (v : Value) : Object :=
  { o with slots := o.slots.filter (·.1 ≠ key) ++ [(key, ⟨v, true, false, true⟩)] }

/-- Takes a property out of the object itself. -/
def remove (o : Object) (key : String) : Object :=
  match o with
  | ⟨parent, extensible, slots, .array items writable⟩ =>
    let items :=
      match indexOfKey? key with
      | some i => if i < items.size then items.setIfInBounds i none else items
      | none => items
    ⟨parent, extensible, slots.filter (·.1 ≠ key), .array items writable⟩
  | ⟨parent, extensible, slots, kind⟩ => ⟨parent, extensible, slots.filter (·.1 ≠ key), kind⟩

/-- The keys of the elements of an array. -/
def itemKeys : (index : Nat) → List (Option Value) → List String
  | _, [] => []
  | i, some _ :: rest => toString i :: itemKeys (i + 1) rest
  | i, none :: rest => itemKeys (i + 1) rest

/-- The keys of the object itself: indices in ascending order, then the others in the order in
which they were added. -/
def keys (o : Object) : List String :=
  match o.kind with
  | .array items _ => itemKeys 0 items.toList ++ "length" :: indicesFirst (o.slots.map (·.1))
  | _ => indicesFirst (o.slots.map (·.1))

/-- The listed keys of the object itself. -/
def listedKeys (o : Object) : List String :=
  match o.kind with
  | .array items _ =>
    itemKeys 0 items.toList ++
      indicesFirst ((o.slots.filter (·.2.enumerable)).map (·.1))
  | _ => indicesFirst ((o.slots.filter (·.2.enumerable)).map (·.1))

/-- The object to which nothing can be added and of which nothing can be changed. -/
def freeze (o : Object) : Object :=
  { o with
    extensible := false
    slots := o.slots.map fun (k, s) => (k, { s with writable := false, configurable := false })
    kind :=
      match o.kind with
      | .array items _ => .array items false
      | kind => kind }

/-- The object to which nothing can be added and of which nothing can be taken away. -/
def close (o : Object) : Object :=
  { o with
    extensible := false
    slots := o.slots.map fun (k, s) => (k, { s with configurable := false }) }

/-- Whether nothing can be added to an object and nothing of it can be changed. -/
def isFrozen (o : Object) : Bool :=
  !o.extensible && o.slots.all (fun (_, s) => !s.writable && !s.configurable) &&
    match o.kind with
    | .array _ writable => !writable
    | _ => true

/-- Whether nothing can be added to an object and nothing can be taken away from it. -/
def isClosed (o : Object) : Bool :=
  !o.extensible && o.slots.all fun (_, s) => !s.configurable

/-- Whether an object can be called. -/
def isCallable (o : Object) : Bool :=
  match o.kind with
  | .closure _ | .builtin _ | .bound .. => true
  | _ => false

end Object

/-! ### Places of the library -/

namespace Library

/-- The object whose properties are the global names. -/
def global : Ref := .cell 0

/-- The parent of plain objects. -/
def objects : Ref := .cell 1

/-- The parent of functions. -/
def functions : Ref := .cell 2

/-- The parent of arrays. -/
def arrays : Ref := .cell 3

/-- Where texts have their methods. -/
def strings : Ref := .cell 4

/-- Where numbers have their methods. -/
def numbers : Ref := .cell 5

/-- Where truth values have their methods. -/
def booleans : Ref := .cell 6

/-- The parent of promises. -/
def promises : Ref := .cell 7

/-- The parent of the errors of a kind. -/
def errors : ErrorKind → Ref
  | .error => .cell 8
  | .type => .cell 9
  | .reference => .cell 10
  | .range => .cell 11
  | .syntaxError => .cell 12
  | .eval => .cell 13
  | .uri => .cell 14

end Library

/-! ### Heaps -/

/-- The objects of a script. -/
structure Heap where
  cells : Array Object := #[]
  /-- The objects that the script is given from outside. -/
  given : Array Object := #[]
deriving Inhabited

namespace Heap

/-- The object at a place. -/
def object (h : Heap) : Ref → Object
  | .given i => h.given[i]?.getD {}
  | .cell i => h.cells[i]?.getD {}

/-- Changes an object. -/
def modify (h : Heap) (r : Ref) (f : Object → Object) : Heap :=
  match r with
  | .given i => { h with given := h.given.modify i f }
  | .cell i => { h with cells := h.cells.modify i f }

/-- A new object. -/
def allocate (h : Heap) (o : Object) : Nat × Heap :=
  (h.cells.size, { h with cells := h.cells.push o })

/-- A new object as a value. -/
def make (h : Heap) (o : Object) : Value × Heap :=
  let (i, h) := h.allocate o
  (.object (.cell i), h)

/-- A new array. -/
def makeArray (h : Heap) (items : List Value) : Value × Heap :=
  h.make { parent := some Library.arrays, kind := .array (items.map some).toArray true }

/-- A new plain object with fields. -/
def makePlain (h : Heap) (fields : List (String × Value)) : Value × Heap :=
  h.make
    { parent := some Library.objects
      slots := fields.foldl (fun slots (k, v) => Object.putSlot k v slots) [] }

/-- An error with a message. -/
def error (kind : ErrorKind) (message : String) : Object :=
  { parent := some (Library.errors kind)
    slots := [("message", ⟨.string message, true, false, true⟩)]
    kind := .error }

/-- A new error. -/
def makeError (h : Heap) (kind : ErrorKind) (message : String) : Value × Heap :=
  h.make (error kind message)

/-- A new function of the library. -/
def makeBuiltin (h : Heap) (name : String) (b : Builtin) : Value × Heap :=
  h.make
    { parent := some Library.functions
      slots := [("name", ⟨.string name, false, false, true⟩)]
      kind := .builtin b }

/-! ### Reading -/

/-- The property of an object or of one of its parents. -/
def inherited? (h : Heap) (key : String) : (fuel : Nat) → Ref → Option Slot
  | 0, _ => none
  | fuel + 1, r =>
    let o := h.object r
    match o.own? key with
    | some s => some s
    | none => o.parent.bind (h.inherited? key fuel)

/-- How many objects there are. -/
def size (h : Heap) : Nat := h.given.size + h.cells.size

/-- The property of an object, its own or inherited. -/
def slot? (h : Heap) (r : Ref) (key : String) : Option Slot :=
  h.inherited? key (h.size + 1) r

/-- Whether an object is among the parents of another one. -/
def isAncestor (h : Heap) (ancestor : Ref) : (fuel : Nat) → Ref → Bool
  | 0, _ => false
  | fuel + 1, r =>
    match (h.object r).parent with
    | none => false
    | some p => p = ancestor || isAncestor h ancestor fuel p

/-- Whether an object has the field `__proto__` that plain objects inherit. -/
def showsParent (h : Heap) (r : Ref) : Bool :=
  r = Library.objects || h.isAncestor Library.objects h.size r

/-- The unit of a text at an index, as a text. -/
def unitAt? (s : String) (i : Nat) : Option String :=
  ((Text.units s.toList)[i]?).map fun u => String.ofList (Text.ofUnits [u])

/-- Where the methods of a primitive value are. -/
def methodsOf? : Value → Option Ref
  | .bool _ => some Library.booleans
  | .number _ => some Library.numbers
  | .string _ => some Library.strings
  | .object r => some r
  | _ => none

/-- The own property of a text. -/
def textSlot? (s : String) (key : String) : Option Slot :=
  if key = "length" then some ⟨.ofInt (Text.unitCount s), false, false, false⟩
  else ((indexOfKey? key).bind (unitAt? s)).map fun u => ⟨.string u, false, true, false⟩

/-- The property of a value. -/
def property? (h : Heap) (v : Value) (key : String) : Option Slot :=
  let own :=
    match v with
    | .string s => textSlot? s key
    | _ => none
  match own with
  | some s => some s
  | none =>
    if key = "__proto__" then
      match (methodsOf? v).bind (h.slot? · key), v with
      | some s, _ => some s
      | none, .object r =>
        if h.showsParent r then
          some ⟨((h.object r).parent.map Value.object).getD .null, true, false, true⟩
        else none
      | none, _ => (methodsOf? v).map fun r => ⟨.object r, true, false, true⟩
    else (methodsOf? v).bind (h.slot? · key)

/-- The value of a property; undefined when there is none. -/
def get (h : Heap) (v : Value) (key : String) : Value :=
  ((h.property? v key).map (·.value)).getD .undefined

/-- Whether a value can be called. -/
def isCallable (h : Heap) : Value → Bool
  | .object r => (h.object r).isCallable
  | _ => false

/-- Whether a value is a function of the library. -/
def isBuiltin (h : Heap) (v : Value) (b : Builtin) : Bool :=
  match v with
  | .object r =>
    match (h.object r).kind with
    | .builtin b' => b' = b
    | _ => false
  | _ => false

/-- The promise that a value is, by its cell. -/
def promise? (h : Heap) : Value → Option (Nat × Promise)
  | .object (.cell i) =>
    match (h.object (.cell i)).kind with
    | .promise p => some (i, p)
    | _ => none
  | _ => none

/-- The elements of an array; a hole is undefined. -/
def items? (h : Heap) : Value → Option (List Value)
  | .object r =>
    match (h.object r).kind with
    | .array items _ => some (items.toList.map (·.getD .undefined))
    | _ => none
  | _ => none

/-- Whether a value is an error. -/
def isError (h : Heap) : Value → Bool
  | .object r =>
    match (h.object r).kind with
    | .error => true
    | _ => false
  | _ => false

/-! ### Writing -/

/-- The fault of a property that cannot be set. -/
def readOnly (key : String) : Fault := .error .type ("'" ++ key ++ "' is read-only")

/-- Gives an object another parent. An object to which nothing can be added keeps its own, and so does
the one from which plain objects inherit; and no object comes to lie among its own parents. -/
def setParent (h : Heap) (r : Ref) (parent : Option Ref) : Except Fault Heap :=
  let o := h.object r
  if o.parent = parent then .ok h
  else if r = Library.objects then
    .error (.error .type
      "Immutable prototype object 'Object.prototype' cannot have their prototype set")
  else if !o.extensible then .error (.error .type "object is not extensible")
  else if parent.any fun p => p = r || h.isAncestor r h.size p then
    .error (.error .type "circular prototype chain")
  else .ok (h.modify r fun o => { o with parent })

/-- Sets the field `__proto__` that an object inherits: the parent of the object. What is neither an
object nor null is passed over. -/
def writeParent (h : Heap) (r : Ref) : Value → Except Fault Heap
  | .object p => h.setParent r (some p)
  | .null => h.setParent r none
  | _ => .ok h

/-- Sets a property of an object. -/
def write (h : Heap) (r : Ref) (key : String) (v : Value) :
    Except Fault Heap :=
  let o := h.object r
  match o.own? key with
  | some s => if s.writable then .ok (h.modify r (·.put key v)) else .error (readOnly key)
  | none =>
    match o.parent.bind (h.slot? · key) with
    | some ⟨_, false, _, _⟩ => .error (readOnly key)
    | inherited =>
      if key = "__proto__" && inherited.isNone && h.showsParent r then h.writeParent r v
      else if o.extensible then .ok (h.modify r (·.put key v))
      else .error (.error .type "object is not extensible")

/-- Takes a property away from an object. -/
def delete (h : Heap) (r : Ref) (key : String) : Except Fault Heap :=
  match (h.object r).own? key with
  | none => .ok h
  | some s =>
    if s.configurable then .ok (h.modify r (·.remove key))
    else .error (.error .type "could not delete property")

/-- Sets a property that is not listed, whatever was there. -/
def putHidden (h : Heap) (r : Ref) (key : String) (v : Value) : Heap :=
  h.modify r (·.putHidden key v)

end Heap

end HttpSuite.Script
