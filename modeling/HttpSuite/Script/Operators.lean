/-
HttpSuite/Script/Operators.lean

The operators. All that need primitive operands make them so first, the left one before the right
one.
-/
import HttpSuite.Script.Engine

namespace HttpSuite.Script

namespace Value

/-- The value of an operator on two numbers. -/
def arithmetic (op : BinaryOp) (x y : Binary64) : Binary64 :=
  match op with
  | .sub => x.sub y
  | .mul => x.mul y
  | .div => x.div y
  | .rem => x.rem y
  | .pow => x.pow y
  | _ => x.add y

/-- The bits of a whole number, as many as `2 ^ 32` has. -/
def bits (n : Int) : Nat := (n % 2 ^ 32).toNat

/-- The value of an operator on the bits of two values. -/
def bitwise (op : BinaryOp) (a b : Value) : Int :=
  let x := bits a.toInt32
  let y := bits b.toInt32
  let signed (n : Nat) : Int := ((n : Int)).bmod (2 ^ 32)
  match op with
  | .bitAnd => signed (x &&& y)
  | .bitOr => signed (x ||| y)
  | .bitXor => signed (x ^^^ y)
  | .shiftLeft => signed (x <<< (y % 32))
  | .shiftRight => a.toInt32 >>> (y % 32)
  | _ => (x >>> (y % 32) : Nat)

/-- The value of an operator on two primitive values. -/
def operate (op : BinaryOp) (a b : Value) : Value :=
  match op with
  | .add =>
    match a, b with
    | .string s, b => .string (s ++ b.toText)
    | a, .string t => .string (a.toText ++ t)
    | a, b => .number (a.toNumber.add b.toNumber)
  | .sub | .mul | .div | .rem | .pow => .number (arithmetic op a.toNumber b.toNumber)
  | .less => .bool ((less? a b).getD false)
  | .greater => .bool ((less? b a).getD false)
  | .lessEqual => .bool (((less? b a).map (!·)).getD false)
  | .greaterEqual => .bool (((less? a b).map (!·)).getD false)
  | .equal => .bool (a.looselyEqual b)
  | .notEqual => .bool !(a.looselyEqual b)
  | .same => .bool (a.same b)
  | .notSame => .bool !(a.same b)
  | .bitAnd | .bitOr | .bitXor | .shiftLeft | .shiftRight | .shiftRightZero =>
    .ofInt (bitwise op a b)
  | .instanceOf | .inside => .undefined

end Value

namespace Engine

/-- Whether an object is among the parents of another one, itself apart. -/
def hasParent (h : Heap) (parent : Ref) : (fuel : Nat) → Ref → Bool
  | 0, _ => false
  | fuel + 1, r =>
    match (h.object r).parent with
    | none => false
    | some p => p = parent || hasParent h parent fuel p

/-- Ends with whether an object was made by a class. -/
def instanceOf (m : Engine) (a b : Value) : Engine :=
  if m.heap.isCallable b then
    match a, m.heap.get b "prototype" with
    | .object r, .object p => m.give (.bool (hasParent m.heap p m.heap.size r))
    | .object _, _ => m.raise .type "operand 'prototype' property is not an object"
    | _, _ => m.give (.bool false)
  else m.raise .type "invalid 'instanceof' right operand"

/-- Ends with whether an object has a property. -/
def inside (m : Engine) (a b : Value) : Engine :=
  match b with
  | .object r => m.give (.bool (m.heap.slot? r (m.heap.key a)).isSome)
  | _ => m.raise .type "invalid 'in' operand"

/-- Ends with the value of an operator whose left operand is primitive. -/
def operateRight (m : Engine) (op : BinaryOp) (a b : Value) : Engine :=
  m.withPrimitive b (Heap.methodOrder false) (.operandRight op a) fun b =>
    m.give (Value.operate op a b)

/-- Ends with the value of an operator. -/
def operate (m : Engine) (op : BinaryOp) (a b : Value) : Engine :=
  match op with
  | .instanceOf => m.instanceOf a b
  | .inside => m.inside a b
  | .same | .notSame => m.give (Value.operate op a b)
  | .equal | .notEqual =>
    if a.isObject = b.isObject || a.isNothing || b.isNothing then m.give (Value.operate op a b)
    else
      m.withPrimitive a (Heap.methodOrder false) (.operandLeft op b) fun a => m.operateRight op a b
  | _ =>
    m.withPrimitive a (Heap.methodOrder false) (.operandLeft op b) fun a => m.operateRight op a b

/-- Ends with the value of an operator in front. -/
def operateUnary (m : Engine) (op : UnaryOp) (v : Value) : Engine :=
  match op with
  | .not => m.give (.bool !v.truthy)
  | .typeOf => m.give (.string (m.heap.typeOf v))
  | .void => m.finish
  | .plus =>
    m.withPrimitive v (Heap.methodOrder false) (.unary op) fun p => m.give (.number p.toNumber)
  | .minus =>
    m.withPrimitive v (Heap.methodOrder false) (.unary op) fun p => m.give (.number p.toNumber.neg)
  | .bitNot =>
    m.withPrimitive v (Heap.methodOrder false) (.unary op) fun p => m.give (.ofInt (-p.toInt32 - 1))

end Engine

end HttpSuite.Script
