/-
HttpSuite/Script/Datum.lean

Data: the values that JSON texts write for scripts. The members of an object stay in the order in
which they first come, and a number is read with one rounding.
-/
import HttpSuite.Script.Heap
import HttpSuite.Script.Token
import HttpSuite.Json.Writer

namespace HttpSuite.Script

/-- A value without functions and without sharing. -/
inductive Datum where
  | null
  | bool (b : Bool)
  | number (x : Binary64)
  | string (s : String)
  | array (items : List Datum)
  | object (members : List (String × Datum))
deriving Inhabited

namespace Datum

mutual

/-- The datum of a JSON value. -/
def ofJson : Json → Datum
  | .null => null
  | .bool b => bool b
  | .number n => number n.toBinary64
  | .string s => string s
  | .array items => array (ofItems items)
  | .object members => object (ofMembers members)

/-- The data of JSON values. -/
def ofItems : List Json → List Datum
  | [] => []
  | v :: rest => ofJson v :: ofItems rest

/-- The data of the members of a JSON object. -/
def ofMembers : List (String × Json) → List (String × Datum)
  | [] => []
  | (k, v) :: rest => (k, ofJson v) :: ofMembers rest

end

/-! ### Reading -/

namespace Reader

/-- A blank of JSON. -/
def isSpace (c : Char) : Bool := c == ' ' || c == '\n' || c == '\t' || c == '\r'

/-- Drops the blanks in front. -/
def skip (s : List Char) : List Char := s.dropWhile isSpace

/-- The message for a piece that starts no value. -/
def unexpected : List Char → String
  | [] => "Unexpected end of JSON input"
  | c :: _ => "unexpected token: '" ++ String.singleton c ++ "'"

/-- The units of a string, after its opening quote, and what follows it. -/
def units : (fuel : Nat) → List Char → Except String (List Nat × List Char)
  | 0, _ => .error "Unexpected end of JSON input"
  | _, [] => .error "Unexpected end of JSON input"
  | _, '"' :: s => .ok ([], s)
  | fuel + 1, '\\' :: c :: s =>
    let simple (n : Nat) := (units fuel s).map fun (us, rest) => (n :: us, rest)
    match c with
    | '"' | '\\' | '/' => simple c.toNat
    | 'n' => simple 10
    | 't' => simple 9
    | 'r' => simple 13
    | 'b' => simple 8
    | 'f' => simple 12
    | 'u' =>
      match Lexeme.fixedEscape? 4 s with
      | some (n, rest) => (units fuel rest).map fun (us, rest) => (n :: us, rest)
      | none => .error "Bad Unicode escape"
    | _ => .error "Bad escaped character"
  | fuel + 1, c :: s =>
    if c.toNat < 0x20 then .error "Bad control character in string literal"
    else (units fuel s).map fun (us, rest) => (Text.unitsOf c ++ us, rest)

/-- A string, after its opening quote. -/
def text (s : List Char) : Except String (String × List Char) :=
  (units (s.length + 1) s).map fun (us, rest) => (String.ofList (Text.ofUnits us), rest)

/-- The digits of a number in front: a whole part without leading zeros, a fraction, an
exponent. -/
def numberLength? (s : List Char) : Option Nat :=
  let digits (l : List Char) := (l.takeWhile Ascii.isDigit).length
  let (sign, s) := match s with | '-' :: rest => (1, rest) | _ => (0, s)
  let whole := digits s
  if whole = 0 || (s.head? = some '0' && 1 < whole) then none
  else
    let afterWhole := s.drop whole
    let fraction? :=
      match afterWhole with
      | '.' :: rest => if digits rest = 0 then none else some (1 + digits rest)
      | _ => some 0
    fraction?.bind fun fraction =>
      let afterFraction := afterWhole.drop fraction
      let exponent? :=
        match afterFraction with
        | e :: rest =>
          if e == 'e' || e == 'E' then
            let (mark, ds) :=
              match rest with
              | '+' :: ds | '-' :: ds => (1, ds)
              | ds => (0, ds)
            if digits ds = 0 then none else some (1 + mark + digits ds)
          else some 0
        | [] => some 0
      exponent?.map fun exponent => sign + whole + fraction + exponent

mutual

/-- A value, and what follows it. -/
def value : (fuel : Nat) → List Char → Except String (Datum × List Char)
  | 0, s => .error (unexpected s)
  | fuel + 1, s =>
    match skip s with
    | '"' :: rest => (text rest).map fun (t, rest) => (string t, rest)
    | '[' :: rest =>
      match skip rest with
      | ']' :: rest => .ok (array [], rest)
      | rest => (items fuel rest).map fun (l, rest) => (array l, rest)
    | '\x7b' :: rest =>
      match skip rest with
      | '\x7d' :: rest => .ok (object [], rest)
      | rest => (members fuel rest).map fun (l, rest) => (object l, rest)
    | 't' :: 'r' :: 'u' :: 'e' :: rest => .ok (bool true, rest)
    | 'f' :: 'a' :: 'l' :: 's' :: 'e' :: rest => .ok (bool false, rest)
    | 'n' :: 'u' :: 'l' :: 'l' :: rest => .ok (null, rest)
    | s =>
      match numberLength? s with
      | none => .error (unexpected s)
      | some n =>
        let digits := s.take n
        let negative := digits.head? = some '-'
        match Binary64.magnitudeOfText? negative (if negative then digits.tail else digits) with
        | some x => .ok (number x, s.drop n)
        | none => .error (unexpected s)

/-- The items of an array up to its closing bracket. -/
def items : (fuel : Nat) → List Char → Except String (List Datum × List Char)
  | 0, s => .error (unexpected s)
  | fuel + 1, s => do
    let (v, rest) ← value fuel s
    match skip rest with
    | ',' :: rest => do
      let (l, rest) ← items fuel rest
      pure (v :: l, rest)
    | ']' :: rest => pure ([v], rest)
    | rest => .error (unexpected rest)

/-- The members of an object up to its closing brace. -/
def members : (fuel : Nat) → List Char → Except String (List (String × Datum) × List Char)
  | 0, s => .error (unexpected s)
  | fuel + 1, s => do
    match skip s with
    | '"' :: rest => do
      let (k, rest) ← text rest
      match skip rest with
      | ':' :: rest => do
        let (v, rest) ← value fuel rest
        match skip rest with
        | ',' :: rest => do
          let (l, rest) ← members fuel rest
          pure ((k, v) :: l, rest)
        | '\x7d' :: rest => pure ([(k, v)], rest)
        | rest => .error (unexpected rest)
      | rest => .error (unexpected rest)
    | [] => .error (unexpected [])
    | _ => .error "expecting property name"

end

end Reader

/-- The datum that a JSON text writes, or why it writes none. -/
def ofText (s : String) : Except String Datum := do
  let (v, rest) ← Reader.value (s.toList.length + 1) s.toList
  if (Reader.skip rest).isEmpty then pure v else .error "unexpected data at the end"

end Datum

/-! ### Data as objects -/

namespace Heap

mutual

/-- The value of a datum, its objects newly made. -/
def ofDatum (h : Heap) : Datum → Value × Heap
  | .null => (.null, h)
  | .bool b => (.bool b, h)
  | .number x => (.number x, h)
  | .string s => (.string s, h)
  | .array items =>
    let (l, h) := ofItems h items
    h.makeArray l
  | .object members =>
    let (l, h) := ofMembers h members
    h.makePlain l

/-- The values of data. -/
def ofItems (h : Heap) : List Datum → List Value × Heap
  | [] => ([], h)
  | d :: rest =>
    let (v, h) := ofDatum h d
    let (l, h) := ofItems h rest
    (v :: l, h)

/-- The values of the members of an object. -/
def ofMembers (h : Heap) : List (String × Datum) → List (String × Value) × Heap
  | [] => ([], h)
  | (k, d) :: rest =>
    let (v, h) := ofDatum h d
    let (l, h) := ofMembers h rest
    ((k, v) :: l, h)

end

end Heap

/-! ### Data from outside -/

namespace Given

/-- A plain object. -/
def plain (fields : List (String × Value)) : Object :=
  { parent := some Library.objects
    slots := fields.foldl (fun slots (k, v) => Object.putSlot k v slots) [] }

/-- An array. -/
def list (items : List Value) : Object :=
  { parent := some Library.arrays, kind := .array (items.map some).toArray true }

/-- Adds an object to those that are given. -/
def add (given : Array Object) (o : Object) : Value × Array Object :=
  (.object (.given given.size), given.push o)

mutual

/-- The value of a datum, its objects added to those that are given. -/
def ofDatum (given : Array Object) : Datum → Value × Array Object
  | .null => (.null, given)
  | .bool b => (.bool b, given)
  | .number x => (.number x, given)
  | .string s => (.string s, given)
  | .array items =>
    let (l, given) := ofItems given items
    add given (list l)
  | .object members =>
    let (l, given) := ofMembers given members
    add given (plain l)

/-- The values of data. -/
def ofItems (given : Array Object) : List Datum → List Value × Array Object
  | [] => ([], given)
  | d :: rest =>
    let (v, given) := ofDatum given d
    let (l, given) := ofItems given rest
    (v :: l, given)

/-- The values of the members of an object. -/
def ofMembers (given : Array Object) :
    List (String × Datum) → List (String × Value) × Array Object
  | [] => ([], given)
  | (k, d) :: rest =>
    let (v, given) := ofDatum given d
    let (l, given) := ofMembers given rest
    ((k, v) :: l, given)

end

end Given

end HttpSuite.Script
