/-
HttpSuite/Proofs/Script/Freezing.lean

Frozen objects.  A frozen object has the properties that it had, with their values; nothing can be
added to it, and no property of it can be set or taken away.  It can be frozen and closed again, and
stays what it is.

Main results: what a script does to a frozen object fails or changes nothing (`Heap.write_of_isFrozen`,
`Heap.delete_of_isFrozen`).  So from one heap to another the frozen objects that the script was given
stay as they are, and functions of the library stay the functions that they are (`Heap.KeepsFixed`).
-/
import HttpSuite.Proofs.Script.Heap
import HttpSuite.Script.Freeze

namespace HttpSuite.Script

/-- The property as it is in a frozen object. -/
def Slot.frozen (s : Slot) : Slot := { s with writable := false, configurable := false }

/-- The function of the library that an object is. -/
@[grind =] def Kind.builtin? : Kind → Option Builtin
  | .builtin b => some b
  | .plain | .error | .array .. | .closure _ | .bound .. | .promise _ | .flag _ | .count _ => none

theorem Kind.eq_of_builtin? {kind : Kind} {b : Builtin} (h : kind.builtin? = some b) :
    kind = .builtin b := by
  cases kind with
  | builtin _ => exact congrArg Kind.builtin (Option.some.inj h)
  | _ => cases h

namespace Object

variable {o : Object} {key : String} {s : Slot}

/-! ### What freezing does -/

theorem own?_freeze (o : Object) (key : String) :
    o.freeze.own? key = (o.own? key).map Slot.frozen := by
  obtain ⟨parent, extensible, slots, kind⟩ := o
  have hslots : Table.find? key (slots.map fun e => (e.1, e.2.frozen)) =
      (Table.find? key slots).map Slot.frozen := Table.find?_map _ _ _
  cases kind with
  | array items writable =>
      simp only [own?, freeze]
      split
      · rfl
      · split
        · exact hslots
        · split
          · rfl
          · exact hslots
  | _ => exact hslots

/-- Freezing keeps the values of all properties. -/
theorem value_own?_freeze (o : Object) (key : String) :
    (o.freeze.own? key).map (·.value) = (o.own? key).map (·.value) := by
  rw [own?_freeze, Option.map_map]
  rfl

theorem isCallable_freeze (o : Object) : o.freeze.isCallable = o.isCallable := by
  obtain ⟨parent, extensible, slots, kind⟩ := o
  cases kind with
  | _ => rfl

theorem isCallable_put (o : Object) (key : String) (v : Value) :
    (o.put key v).isCallable = o.isCallable := by
  fun_cases Object.put <;> simp_all [isCallable]

theorem isFrozen_freeze (o : Object) : o.freeze.isFrozen = true := by
  obtain ⟨parent, extensible, slots, kind⟩ := o
  cases kind with
  | _ => simp [isFrozen, freeze]

/-! ### Frozen objects -/

/-- Nothing can be added to a frozen object. -/
@[grind →] theorem extensible_of_isFrozen (ho : o.isFrozen = true) : o.extensible = false := by
  unfold isFrozen at ho
  grind

/-- The fields of a frozen object are frozen. -/
theorem slots_of_isFrozen (ho : o.isFrozen = true) : ∀ e ∈ o.slots, e.2.frozen = e.2 := by
  intro e he
  simp only [isFrozen, Bool.and_eq_true, List.all_eq_true] at ho
  have hfixed := ho.1.2 e he
  obtain ⟨name, value, writable, enumerable, configurable⟩ := e
  obtain ⟨rfl, rfl⟩ : writable = false ∧ configurable = false := by simpa using hfixed
  rfl

/-- The elements of a frozen array cannot be set. -/
@[grind →] theorem not_array_of_isFrozen (ho : o.isFrozen = true)
    {items : Array (Option Value)} (hkind : o.kind = .array items true) : False := by
  simp [isFrozen, hkind] at ho

/-- A property of a frozen object is frozen, whether it is a field or an element. -/
theorem frozen_of_own? (ho : o.isFrozen = true) (hs : o.own? key = some s) : s.frozen = s := by
  have hslots : Table.find? key o.slots = some s → s.frozen = s :=
    fun hfind => slots_of_isFrozen ho _ (Table.mem_of_find? hfind)
  unfold own? at hs
  split at hs
  · rename_i items writable hkind
    obtain rfl : writable = false := by
      cases writable with
      | true => exact (not_array_of_isFrozen ho hkind).elim
      | false => rfl
    split at hs
    · cases hs
      rfl
    · split at hs
      · exact hslots hs
      · split at hs
        · cases hs
          rfl
        · exact hslots hs
  · exact hslots hs

/-- A frozen object is not changed when additions to it are forbidden. -/
@[grind =] theorem mk_of_isFrozen (ho : o.isFrozen = true) :
    (⟨o.parent, false, o.slots, o.kind⟩ : Object) = o := by
  rw [← extensible_of_isFrozen ho]

/-- Nor is it changed when it is frozen again. -/
@[grind =] theorem freeze_of_isFrozen (ho : o.isFrozen = true) : o.freeze = o := by
  have hextensible := extensible_of_isFrozen ho
  have hslots : o.slots.map (fun e => (e.1, e.2.frozen)) = o.slots := by
    refine (List.map_congr_left fun e he => ?_).trans (List.map_id _)
    rw [slots_of_isFrozen ho e he]
    rfl
  have hitems : ∀ items, o.kind = .array items true → False := fun _ => not_array_of_isFrozen ho
  obtain ⟨parent, extensible, slots, kind⟩ := o
  obtain rfl : extensible = false := hextensible
  cases kind with
  | array items writable =>
      cases writable with
      | true => exact (hitems items rfl).elim
      | false => exact congrArg (fun slots => (⟨parent, false, slots, _⟩ : Object)) hslots
  | _ => exact congrArg (fun slots => (⟨parent, false, slots, _⟩ : Object)) hslots

/-- Nor is it changed when it is closed. -/
@[grind =] theorem close_of_isFrozen (ho : o.isFrozen = true) : o.close = o := by
  have hextensible := extensible_of_isFrozen ho
  have hslots : o.slots.map (fun e => (e.1, { e.2 with configurable := false })) = o.slots := by
    refine (List.map_congr_left fun e he => ?_).trans (List.map_id _)
    have hconfigurable : false = e.2.configurable :=
      congrArg Slot.configurable (slots_of_isFrozen ho e he)
    rw [hconfigurable]
    rfl
  obtain ⟨parent, extensible, slots, kind⟩ := o
  obtain rfl : extensible = false := hextensible
  exact congrArg (fun slots => (⟨parent, false, slots, kind⟩ : Object)) hslots

/-! ### Functions of the library -/

@[grind =] theorem builtin?_put (o : Object) (key : String) (v : Value) :
    (o.put key v).kind.builtin? = o.kind.builtin? := by
  fun_cases Object.put <;> rfl

@[grind =] theorem builtin?_remove (o : Object) (key : String) :
    (o.remove key).kind.builtin? = o.kind.builtin? := by
  fun_cases Object.remove <;> rfl

@[grind =] theorem builtin?_freeze (o : Object) : o.freeze.kind.builtin? = o.kind.builtin? := by
  obtain ⟨parent, extensible, slots, kind⟩ := o
  cases kind <;> rfl

@[grind =] theorem builtin?_close (o : Object) : o.close.kind.builtin? = o.kind.builtin? := rfl

end Object

namespace Heap

variable {h h' g : Heap} {r : Ref}

/-- An object to which nothing can be added keeps its parent. -/
theorem setParent_of_not_extensible (hr : (h.object r).extensible = false) (parent : Option Ref) :
    h.setParent r parent = .ok h ∨ ∃ message, h.setParent r parent = .error (.error .type message) := by
  unfold setParent
  simp only [hr]
  split
  · exact .inl rfl
  · split
    · exact .inr ⟨_, rfl⟩
    · exact .inr ⟨_, rfl⟩

theorem writeParent_of_not_extensible (hr : (h.object r).extensible = false) (v : Value) :
    h.writeParent r v = .ok h ∨ ∃ message, h.writeParent r v = .error (.error .type message) := by
  cases v with
  | object p => exact setParent_of_not_extensible hr (some p)
  | null => exact setParent_of_not_extensible hr none
  | _ => exact .inl rfl

/-- No property of a frozen object can be set, and none can be added; what may be passed over is a
parent that is none, or that the object has already. -/
theorem write_of_isFrozen (hr : (h.object r).isFrozen = true) (key : String) (v : Value) :
    key = "__proto__" ∧ h.write r key v = .ok h ∨
      ∃ message, h.write r key v = .error (.error .type message) := by
  have hextensible := Object.extensible_of_isFrozen hr
  unfold write
  cases hown : (h.object r).own? key with
  | some s =>
      have hwritable : s.writable = false :=
        congrArg Slot.writable (Object.frozen_of_own? hr hown).symm
      simp only [hown, hwritable]
      exact .inr ⟨_, rfl⟩
  | none =>
      simp only [hown, hextensible]
      split
      · exact .inr ⟨_, rfl⟩
      · split
        · rename_i hproto
          have hkey : key = "__proto__" := by
            simp only [Bool.and_eq_true, decide_eq_true_eq] at hproto
            exact hproto.1.1
          exact (writeParent_of_not_extensible hextensible v).imp_left fun hsame => ⟨hkey, hsame⟩
        · exact .inr ⟨_, rfl⟩

/-- No property of a frozen object can be taken away. -/
theorem delete_of_isFrozen (hr : (h.object r).isFrozen = true) (key : String) :
    h.delete r key =
      if ((h.object r).own? key).isNone then .ok h
      else .error (.error .type "could not delete property") := by
  unfold delete
  cases hown : (h.object r).own? key with
  | some s =>
      have hconfigurable : s.configurable = false :=
        congrArg Slot.configurable (Object.frozen_of_own? hr hown).symm
      simp [hconfigurable]
  | none => simp

/-! ### What no script changes -/

/-- The objects that a script was given stay as they are, if they are frozen, and functions of the
library do what they did. -/
structure KeepsFixed (h h' : Heap) : Prop where
  given : ∀ i, (h.object (.given i)).isFrozen = true → h'.object (.given i) = h.object (.given i)
  builtin : ∀ i b, (h.object (.cell i)).kind.builtin? = some b →
    (h'.object (.cell i)).kind.builtin? = some b

theorem KeepsFixed.refl (h : Heap) : h.KeepsFixed h := ⟨fun _ _ => rfl, fun _ _ hb => hb⟩

theorem KeepsFixed.trans (hg : h.KeepsFixed g) (hh : g.KeepsFixed h') : h.KeepsFixed h' := by
  refine ⟨fun i hi => ?_, fun i b hb => hh.builtin i b (hg.builtin i b hb)⟩
  have hsame := hg.given i hi
  exact (hh.given i (hsame ▸ hi)).trans hsame

/-- A change of an object is no matter if it does nothing to a frozen one that the script was given,
and keeps what a function does. -/
theorem keepsFixed_modify (h : Heap) (r : Ref) {f : Object → Object}
    (hfrozen : (∃ i, r = .given i) → (h.object r).isFrozen = true → f (h.object r) = h.object r)
    (hbuiltin : (f (h.object r)).kind.builtin? = (h.object r).kind.builtin?) :
    h.KeepsFixed (h.modify r f) := by
  constructor
  · intro i hi
    rcases object_modify_cases h r f (.given i) with hsame | ⟨rfl, hchanged⟩
    · exact hsame
    · rw [hchanged, hfrozen ⟨i, rfl⟩ hi]
  · intro i b hb
    rcases object_modify_cases h r f (.cell i) with hsame | ⟨rfl, hchanged⟩
    · rw [hsame, hb]
    · rw [hchanged, hbuiltin, hb]

/-- A new object lies behind those that were there. -/
theorem keepsFixed_allocate (h : Heap) (o : Object) : h.KeepsFixed (h.allocate o).2 := by
  refine ⟨fun i _ => rfl, fun i b hb => ?_⟩
  rw [object_allocate]
  split
  · rename_i hi
    have hbehind : h.object (.cell i) = {} := by simp [object, hi]
    rw [hbehind] at hb
    cases hb
  · exact hb

end Heap

end HttpSuite.Script
