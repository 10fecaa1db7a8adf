/-
HttpSuite/Script/Convert.lean

Conversions between values, comparisons, and the texts that values are shown as. A conversion that
would have to call a function of the script is not made here: `Heap.primitive` names the function.
-/
import HttpSuite.Script.Datum
import HttpSuite.Number.Rounding
import HttpSuite.Text.Quoted

namespace HttpSuite.Script

/-! ### Primitive values -/

namespace Value

/-- Whether a value counts as true. -/
def truthy : Value → Bool
  | undefined | null => false
  | bool b => b
  | number x => !x.isZero && x != .nan
  | string s => s ≠ ""
  | object _ => true

/-- Whether a value is an object. -/
def isObject : Value → Bool
  | object _ => true
  | _ => false

/-- A blank around a number in a text. -/
def isSpace (c : Char) : Bool := Lexeme.isSpace c

/-- The text without blanks at its ends. -/
def trimmed (s : String) : List Char :=
  ((s.toList.dropWhile isSpace).reverse.dropWhile isSpace).reverse

/-- The number that a whole text writes; the empty text writes zero. -/
def numberOfText (s : String) : Binary64 :=
  let signed (negative : Bool) (t : List Char) : Binary64 :=
    if t = "Infinity".toList then .infinite negative
    else (Binary64.magnitudeOfText? negative t).getD .nan
  let marked (base : Nat) (t : List Char) : Binary64 :=
    if t.isEmpty || !t.all (Lexeme.isDigitOf base) then .nan
    else Binary64.ofInt (Lexeme.ofDigits base t)
  match trimmed s with
  | [] => .zero
  | '0' :: 'x' :: t | '0' :: 'X' :: t => marked 16 t
  | '0' :: 'o' :: t | '0' :: 'O' :: t => marked 8 t
  | '0' :: 'b' :: t | '0' :: 'B' :: t => marked 2 t
  | '-' :: t => signed true t
  | '+' :: t => signed false t
  | t => signed false t

/-- The text of a number. -/
def textOfNumber (x : Binary64) : String := NumberStyle.script.render x

/-- The number of a primitive value. -/
def toNumber : Value → Binary64
  | undefined => .nan
  | null => .zero
  | bool b => Binary64.ofInt (if b then 1 else 0)
  | number x => x
  | string s => numberOfText s
  | object _ => .nan

/-- The text of a primitive value. -/
def toText : Value → String
  | undefined => "undefined"
  | null => "null"
  | bool b => if b then "true" else "false"
  | number x => textOfNumber x
  | string s => s
  | object _ => "[object Object]"

/-- The whole number toward zero; what is not a number counts as zero. -/
def toWhole (v : Value) : Int := v.toNumber.truncate?.getD 0

/-- A position in a list of a length: counted from the end when negative, and kept in the list. -/
def toPosition (v : Value) (length : Nat) (default : Nat) : Nat :=
  match v with
  | undefined => default
  | v =>
    match v.toNumber with
    | .infinite negative => if negative then 0 else length
    | x =>
      match x.truncate?.getD 0 with
      | .ofNat n => min n length
      | .negSucc n => length - (n + 1)

/-- The whole number of 32 bits with a sign. -/
def toInt32 (v : Value) : Int := (v.toWhole).bmod (2 ^ 32)

/-- The whole number of 32 bits without a sign. -/
def toNat32 (v : Value) : Nat := (v.toWhole % 2 ^ 32).toNat

/-- Whether two values are the same; the zeros are, and what is not a number is never. -/
def same : Value → Value → Bool
  | number x, number y => x.equal y
  | v, w => v == w

/-- Whether two values are the same, what is not a number included. -/
def sameOrNan : Value → Value → Bool
  | number x, number y => x.equal y || (x == .nan && y == .nan)
  | v, w => v == w

/-- Whether two values cannot be told apart. -/
def identical : Value → Value → Bool
  | number x, number y => x == y || (x == .nan && y == .nan)
  | v, w => v == w

/-- Whether two primitive values are equal after conversion. -/
def looselyEqual : Value → Value → Bool
  | undefined, null | null, undefined => true
  | undefined, undefined | null, null => true
  | undefined, _ | null, _ | _, undefined | _, null => false
  | string s, string t => s = t
  | object r, object q => r = q
  | v, w => v.toNumber.equal w.toNumber

/-- Whether a list of units comes before another one. -/
def unitsBefore : List Nat → List Nat → Bool
  | _, [] => false
  | [], _ :: _ => true
  | a :: as, b :: bs => if a = b then unitsBefore as bs else a < b

/-- Whether a primitive value is less than another one; nothing when they cannot be compared. -/
def less? : Value → Value → Option Bool
  | string s, string t => some (unitsBefore (Text.units s.toList) (Text.units t.toList))
  | v, w => (Binary64.compare? v.toNumber w.toNumber).map (· == .lt)

end Value

/-! ### Objects -/

namespace Heap

/-- The name of the kind of a value. -/
def typeOf (h : Heap) : Value → String
  | .undefined => "undefined"
  | .null => "object"
  | .bool _ => "boolean"
  | .number _ => "number"
  | .string _ => "string"
  | .object r => if (h.object r).isCallable then "function" else "object"

/-- How an object becomes primitive. -/
inductive Step where
  | value (v : Value)
  /-- A function of the script has to be called, and then perhaps the other methods. -/
  | call (f : Value) (rest : List String)
  | nothing

/-- The text of an error by its name and its message. -/
def errorLine (name message : String) : String :=
  if message = "" then name else if name = "" then message else name ++ ": " ++ message

/-- The text of a plain object. -/
def tag (h : Heap) : Value → String
  | .undefined => "[object Undefined]"
  | .null => "[object Null]"
  | .bool _ => "[object Boolean]"
  | .number _ => "[object Number]"
  | .string _ => "[object String]"
  | .object r =>
    match (h.object r).kind with
    | .array .. => "[object Array]"
    | .error => "[object Error]"
    | .closure _ | .builtin _ | .bound .. => "[object Function]"
    | .promise _ => "[object Promise]"
    | _ => "[object Object]"

/-- How a function is written; one of the library shows its name alone. -/
def functionText (h : Heap) (text : Value → String) (f : Value) : String :=
  match f with
  | .object r =>
    match (h.object r).kind with
    | .closure c => c.function.source
    | _ => "function " ++ text (h.get f "name") ++ "() \x7b\n    [native code]\n\x7d"
  | _ => text f

/-- The first way to make an object primitive that its methods give. -/
def primitiveBy (h : Heap) (text : Value → String) (object : Value) :
    List String → Step
  | [] => .nothing
  | m :: rest =>
    match h.get object m with
    | .object r =>
      match (h.object r).kind with
      | .builtin (.object .toText) => .value (.string (h.tag object))
      | .builtin (.array .toText) =>
        match h.items? object with
        | some l =>
          let items := l.map fun v => if v.isNothing then "" else text v
          .value (.string (String.intercalate "," items))
        | none => .value (.string (h.tag object))
      | .builtin (.other .errorToText) =>
        let part (key default : String) :=
          match h.get object key with
          | .undefined => default
          | v => text v
        .value (.string (errorLine (part "name" "Error") (part "message" "")))
      | .builtin (.other .functionToText) =>
        .value (.string (h.functionText text object))
      | .closure _ | .bound .. => .call (.object r) rest
      | _ => h.primitiveBy text object rest
    | _ => h.primitiveBy text object rest

/-- The text of a value, as far as no function of the script is needed for it. -/
def textWithin (h : Heap) : (fuel : Nat) → Value → String
  | 0, _ => ""
  | fuel + 1, v =>
    if v.isObject then
      match h.primitiveBy (h.textWithin fuel) v ["toString", "valueOf"] with
      | .value p => p.toText
      | _ => "[object Object]"
    else v.toText

/-- How deep texts of nested arrays go. -/
def textDepth : Nat := 200

/-- The text of a value. -/
def text (h : Heap) (v : Value) : String := h.textWithin textDepth v

/-- The methods that make an object primitive, in the order for a text or for another value. -/
def methodOrder (forText : Bool) : List String :=
  if forText then ["toString", "valueOf"] else ["valueOf", "toString"]

/-- How a value becomes primitive. -/
def primitive (h : Heap) (v : Value) (methods : List String) : Step :=
  if v.isObject then h.primitiveBy (h.textWithin textDepth) v methods else .value v

/-- The number of a value. -/
def number (h : Heap) (v : Value) : Binary64 :=
  match h.primitive v (methodOrder false) with
  | .value p => p.toNumber
  | _ => .nan

/-- The key that a value is. -/
def key (h : Heap) : Value → String
  | .string s => s
  | v => h.text v

/-! ### JSON -/

/-- Line breaks and blanks of a JSON text, or nothing. -/
def breakLine (indent : String) (depth : Nat) : List Char :=
  if indent = "" then []
  else '\n' :: (List.replicate depth indent.toList).flatten

/-- The pieces of an array or an object with what is around them. -/
def enclose (opening closing : Char) (indent : String) (depth : Nat) (pieces : List (List Char)) :
    List Char :=
  match pieces with
  | [] => [opening, closing]
  | _ =>
    let inner := (pieces.map fun p => breakLine indent (depth + 1) ++ p).intersperse [',']
    opening :: (inner.flatten ++ breakLine indent depth ++ [closing])

/-- What is thrown where a method `toJSON` would have to be called. -/
def unsupportedToJson : String := "toJSON is not supported"

/-- The JSON text of a value; nothing for what has none. The objects around it are those in
`path`. An object that has a method `toJSON`, of its own or from above, is refused. -/
def jsonChars (h : Heap) (indent : String) :
    (fuel : Nat) → (path : List Ref) → Value → Except Fault (Option (List Char))
  | 0, _, _ => .error (.error .type "circular reference")
  | fuel + 1, path, v =>
    match v with
    | .undefined => .ok none
    | .null => .ok (some "null".toList)
    | .bool b => .ok (some (if b then "true" else "false").toList)
    | .number x =>
      .ok (some (match x with
        | .finite .. => (Value.textOfNumber x).toList
        | _ => "null".toList))
    | .string s => .ok (some (Json.quote s))
    | .object r =>
      let o := h.object r
      if h.isCallable (h.get v "toJSON") then .error (.error .type unsupportedToJson)
      else if o.isCallable then .ok none
      else if path.contains r then .error (.error .type "circular reference")
      else
        let inner := r :: path
        match o.kind with
        | .array items _ => do
          let pieces ← items.toList.mapM fun item =>
            h.jsonChars indent fuel inner (item.getD .undefined)
          pure (some (enclose '[' ']' indent path.length
            (pieces.map fun p => p.getD "null".toList)))
        | _ => do
          let pieces ← o.listedKeys.mapM fun k => do
            let value ← h.jsonChars indent fuel inner (((o.own? k).map (·.value)).getD .undefined)
            pure (value.map fun t =>
              Json.quote k ++ ':' :: ((if indent = "" then [] else [' ']) ++ t))
          pure (some (enclose '\x7b' '\x7d' indent path.length (pieces.filterMap id)))

/-- The JSON text of a value. -/
def jsonText? (h : Heap) (indent : String) (v : Value) : Except Fault (Option String) :=
  (h.jsonChars indent (h.size + 2) [] v).map (·.map String.ofList)

/-! ### Values in messages -/

/-- The text of a value in a log: a string as it is, and JSON for what has a JSON text. -/
def shown (h : Heap) (v : Value) : Except Fault String :=
  match v with
  | .string s => .ok s
  | .undefined => .ok "undefined"
  | v =>
    if h.isCallable v then .ok (h.text v)
    else (h.jsonText? "" v).map fun t => t.getD (h.text v)

/-- Whether a number is kept as a whole number of 32 bits. -/
def isShort (x : Binary64) : Bool :=
  match x.toInt? with
  | some n => -(2 ^ 31 : Int) ≤ n && n < 2 ^ 31 && !(n = 0 && x.isNegative)
  | none => false

/-- The name of the type of a value in a failed conversion. -/
def typeName (h : Heap) (v : Value) : String :=
  match v with
  | .undefined => "undefined"
  | .null => "null"
  | .bool _ => "bool"
  | .number x => if isShort x then "int" else "float"
  | .string _ => "string"
  | .object r =>
    match (h.object r).kind with
    | .array .. => "array"
    | .error => "exception"
    | .promise _ => "promise"
    | .closure _ | .builtin _ | .bound .. => "function"
    | _ => "object"

/-- A thrown value that is no error, in a message. -/
def debugText (h : Heap) : Value → String
  | .undefined => "Undefined\"undefined\""
  | .null => "Null\"null\""
  | .bool b => "Bool(" ++ (if b then "true" else "false") ++ ")"
  | .number x =>
    if isShort x then "Int(" ++ NumberStyle.plain.render x ++ ")"
    else "Float(" ++ NumberStyle.pointed.render x ++ ")"
  | .string s => "String(Ok(" ++ Text.quoted s ++ "))"
  | v => "Object(" ++ h.text v ++ ")"

/-- The message of a thrown value: the name and the message of an error. -/
def described (h : Heap) (v : Value) : String :=
  if h.isError v then
    let message :=
      match h.get v "message" with
      | .undefined | .null => ""
      | m => h.text m
    match h.text (h.get v "name") with
    | "" => message
    | name => name ++ ": " ++ message
  else "Exception generated by quickjs: " ++ h.debugText v ++ "\n"

/-- The text of the reason why a promise is rejected. -/
def reasonText (h : Heap) (v : Value) : String :=
  if h.isError v then h.described v
  else
    match h.shown v with
    | .ok s => s
    | .error (.error _ message) =>
      if message = unsupportedToJson then message else "promise rejected"
    | .error _ => "promise rejected"

end Heap

end HttpSuite.Script
