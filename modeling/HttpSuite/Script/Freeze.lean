/-
HttpSuite/Script/Freeze.lean

Freezing an object with all that lies within it. What a script is given is frozen so before it starts.
-/
import HttpSuite.Script.Heap

namespace HttpSuite.Script

namespace Heap

/-- The object that a property of an object has as its value, if it has one that is no function. -/
def part? (h : Heap) (r : Ref) (key : String) : Option Ref :=
  match (h.object r).own? key with
  | some ⟨.object q, _, _, _⟩ => if (h.object q).isCallable then none else some q
  | _ => none

/-- Freezes an object, and before it whatever object one of its own properties has as its value; down
to a depth. -/
def deepFreeze (h : Heap) : (depth : Nat) → Ref → Heap
  | 0, _ => h
  | depth + 1, r =>
    ((h.object r).keys.foldl (fun h key =>
      match h.part? r key with
      | some q => deepFreeze h depth q
      | none => h) h).modify r Object.freeze

end Heap

end HttpSuite.Script
