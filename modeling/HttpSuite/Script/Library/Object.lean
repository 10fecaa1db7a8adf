/-
HttpSuite/Script/Library/Object.lean

The functions on objects and on functions, and the constructors of errors.
-/
import HttpSuite.Script.Engine
import HttpSuite.Text.Percent

namespace HttpSuite.Script

/-- An argument; undefined when there is none. -/
def argument (args : List Value) (i : Nat) : Value := args[i]?.getD .undefined

namespace Engine

/-- Throws because there is no object. -/
def noObject (m : Engine) : Engine := m.raise .type "cannot convert to object"

/-- The listed properties of a value. -/
def entriesOf (m : Engine) (v : Value) : List (String × Value) :=
  match v with
  | .object r =>
    let o := m.heap.object r
    o.listedKeys.map fun k => (k, ((o.own? k).map (·.value)).getD .undefined)
  | .string s =>
    let us := Text.units s.toList
    (List.range us.length).map fun i =>
      (toString i, .string (String.ofList (Text.ofUnits [us[i]?.getD 0])))
  | _ => []

/-- Makes arrays of two of keys and values. -/
def makePairs (h : Heap) : List (String × Value) → List Value × Heap
  | [] => ([], h)
  | (k, v) :: rest =>
    let (pair, h) := h.makeArray [.string k, v]
    let (l, h) := makePairs h rest
    (pair :: l, h)

/-- Sets the properties of an object one after another. -/
def putAll (h : Heap) (r : Ref) :
    List (String × Value) → Except Fault Heap
  | [] => .ok h
  | (k, v) :: rest =>
    match h.write r k v with
    | .ok h => putAll h r rest
    | .error f => .error f

/-- The properties that arrays of two write. -/
def pairsOf (m : Engine) : List Value → Except Fault (List (String × Value))
  | [] => .ok []
  | v :: rest => do
    if !v.isObject then throw (.error .type "not an object")
    let more ← m.pairsOf rest
    pure ((m.heap.key (m.heap.get v "0"), m.heap.get v "1") :: more)

/-- Calls a function on objects. -/
def callObject (m : Engine) (f : ObjectFunction) (this : Value) (args : List Value) :
    Engine :=
  let first := argument args 0
  let second := argument args 1
  /- Applies to an object; other values stay as they are. -/
  let change (g : Object → Object) : Engine :=
    match first with
    | .object r => { m with heap := m.heap.modify r g }.give first
    | v => m.give v
  let test (g : Object → Bool) (otherwise : Bool) : Engine :=
    match first with
    | .object r => m.give (.bool (g (m.heap.object r)))
    | _ => m.give (.bool otherwise)
  let hasOwn (v : Value) (key : Value) : Engine :=
    match v with
    | .object r => m.give (.bool ((m.heap.object r).own? (m.heap.key key)).isSome)
    | .string s => m.give (.bool (Heap.textSlot? s (m.heap.key key)).isSome)
    | v => if v.isNothing then m.noObject else m.give (.bool false)
  match f with
  | .constructor =>
    if first.isNothing then m.giveNew (m.heap.makePlain []) else m.give first
  | .assign =>
    if first.isNothing then m.noObject
    else
      match first with
      | .object r =>
        m.withHeap (putAll m.heap r (args.tail.flatMap m.entriesOf)) (·.give first)
      | v => m.give v
  | .create =>
    match first with
    | .object r => m.giveNew (m.heap.make { parent := some r })
    | .null => m.giveNew (m.heap.make {})
    | _ => m.raise .type "not a prototype"
  | .entries =>
    if first.isNothing then m.noObject
    else
      let (pairs, heap) := makePairs m.heap (m.entriesOf first)
      { m with heap }.giveNew (heap.makeArray pairs)
  | .keys =>
    if first.isNothing then m.noObject
    else m.giveNew (m.heap.makeArray ((m.entriesOf first).map fun e => .string e.1))
  | .values =>
    if first.isNothing then m.noObject
    else m.giveNew (m.heap.makeArray ((m.entriesOf first).map (·.2)))
  | .getOwnPropertyNames =>
    match first with
    | .object r => m.giveNew (m.heap.makeArray ((m.heap.object r).keys.map .string))
    | v =>
      if v.isNothing then m.noObject
      else m.giveNew (m.heap.makeArray ((m.entriesOf v).map fun e => .string e.1))
  | .fromEntries =>
    match m.listOf first with
    | .error fault => m.fail fault
    | .ok l =>
      match m.pairsOf l with
      | .error fault => m.fail fault
      | .ok pairs => m.giveNew (m.heap.makePlain pairs)
  | .getPrototypeOf =>
    match first with
    | .object r => m.give (((m.heap.object r).parent.map Value.object).getD .null)
    | v =>
      match Heap.methodsOf? v with
      | some r => m.give (.object r)
      | none => m.noObject
  | .hasOwn => hasOwn first second
  | .is => m.give (.bool (first.identical second))
  | .freeze => change Object.freeze
  | .close => change Object.close
  | .preventExtensions => change fun o => { o with extensible := false }
  | .isFrozen => test Object.isFrozen true
  | .isClosed => test Object.isClosed true
  | .isExtensible => test (·.extensible) false
  | .hasOwnProperty => hasOwn this first
  | .isPrototypeOf =>
    match this, first with
    | .object a, .object r => m.give (.bool (m.heap.isAncestor a m.heap.size r))
    | _, _ => m.give (.bool false)
  | .toText => m.give (.string (m.heap.tag this))
  | .valueOf => if this.isNothing then m.noObject else m.give this

/-- Makes an error of a kind for a class. -/
def makeErrorFor (m : Engine) (kind : ErrorKind) (args : List Value) (target : Value) :
    Engine :=
  let parent := m.prototypeOf target (Library.errors kind)
  let slots : List (String × Slot) :=
    match argument args 0 with
    | .undefined => []
    | v => [("message", ⟨.string (m.heap.text v), true, false, true⟩)]
  let cause : List (String × Slot) :=
    match argument args 1 with
    | .object r =>
      match m.heap.slot? r "cause" with
      | some s => [("cause", ⟨s.value, true, false, true⟩)]
      | none => []
    | _ => []
  m.giveNew (m.heap.make { parent := some parent, slots := slots ++ cause, kind := .error })

/-- The characters that stay as they are in a part of an address. -/
def isUnreserved (c : Char) : Bool :=
  Ascii.isLetter c || Ascii.isDigit c || "-_.!~*'()".toList.contains c

/-- The text with its other characters as escaped bytes. -/
def encodeComponent (s : String) : String :=
  String.ofList (Percent.encode (!isUnreserved ·) s.toList)

/-- The text that escaped bytes write. -/
def decodeComponent? (s : String) : Option String :=
  (Percent.bytes? s.toList).bind Percent.textOf?

/-- Blanks for an argument that says how a JSON text is indented. -/
def indentOf (m : Engine) : Value → String
  | .number x => String.ofList (List.replicate (min 10 (x.truncate?.getD 0).toNat) ' ')
  | .string s => String.ofList (s.toList.take 10)
  | v => if v.isObject then m.heap.text v else ""

/-- Calls a function on functions and errors, or one on texts of other formats. -/
def callOther (m : Engine) (f : OtherFunction) (this : Value) (args : List Value) :
    Engine :=
  let first := argument args 0
  let second := argument args 1
  match f with
  | .functionConstructor => m.raise .type "eval is not supported"
  | .call => m.call this first args.tail
  | .apply =>
    match argument args 1 with
    | .undefined | .null => m.call this first []
    | l =>
      match m.heap.items? l with
      | some l => m.call this first l
      | none => m.raise .type "not a object"
  | .bind =>
    if m.heap.isCallable this then
      let (v, heap) := m.heap.make
        { parent := some Library.functions
          slots := [("name", ⟨.string ("bound " ++ m.heap.text (m.heap.get this "name")), false,
            false, true⟩)]
          kind := .bound this first args.tail }
      { m with heap }.give v
    else m.raise .type "not a function"
  | .functionToText =>
    if m.heap.isCallable this then m.give (.string (m.heap.functionText m.heap.text this))
    else m.raise .type "not a function"
  | .errorConstructor kind => m.makeErrorFor kind args .undefined
  | .errorToText =>
    match m.heap.primitiveBy m.heap.text this ["toString"] with
    | .value v => m.give v
    | _ => m.give (.string (m.heap.text this))
  | .jsonParse =>
    if m.heap.isCallable second then m.raise .type "reviver is not supported"
    else
      match Datum.ofText (m.heap.text first) with
      | .ok d => m.giveNew (m.heap.ofDatum d)
      | .error message => m.raise .syntaxError message
  | .jsonStringify =>
    if m.heap.isCallable second || (m.heap.items? second).isSome then
      m.raise .type "replacer is not supported"
    else
      match m.heap.jsonText? (m.indentOf (argument args 2)) first with
      | .ok t => m.give (.ofText? t)
      | .error fault => m.fail fault
  | .encodeComponent => m.give (.string (encodeComponent (m.heap.text first)))
  | .decodeComponent =>
    match decodeComponent? (m.heap.text first) with
    | some s => m.give (.string s)
    | none => m.raise .uri "malformed UTF-8"

end Engine

end HttpSuite.Script
