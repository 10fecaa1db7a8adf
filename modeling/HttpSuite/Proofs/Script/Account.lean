/-
HttpSuite/Proofs/Script/Account.lean

What the operations on a heap keep.  The account of its promises is, of each cell, whether it is a
promise for which somebody has waited, or one that is rejected:

    none          no promise, or one that is not rejected and for which nobody has waited
    some false    rejected, and nobody has waited for it: the promise is open
    some true     somebody has waited for it

Almost nothing that is done to a heap changes the account: a change of the properties of an object
leaves its kind as it is, and a new object is no rejected promise.  And nothing at all changes what
is fixed: what would change a frozen object that the script was given fails.  The lemmas here say both
for each operation on heaps (`Heap.Keeps`); they are found by `grind`.
-/
import HttpSuite.Proofs.Script.Freezing
import HttpSuite.Script.Library.Object

namespace HttpSuite.Script

/-- Whether somebody has waited for a promise, or it is rejected. -/
def Promise.account (s : Promise) : Option Bool :=
  match s.handled, s.state with
  | true, _ => some true
  | false, .rejected _ => some false
  | false, .pending | false, .fulfilled _ => none

/-- The account of what an object is; only of promises there is one. -/
@[grind =] def Kind.account : Kind → Option Bool
  | .promise s => s.account
  | .plain | .error | .array .. | .closure _ | .builtin _ | .bound .. | .flag _ | .count _ => none

namespace Object

@[grind =] theorem account_put (o : Object) (key : String) (v : Value) :
    (o.put key v).kind.account = o.kind.account := by
  fun_cases Object.put <;> rfl

@[grind =] theorem account_remove (o : Object) (key : String) :
    (o.remove key).kind.account = o.kind.account := by
  fun_cases Object.remove <;> rfl

@[grind =] theorem account_freeze (o : Object) : o.freeze.kind.account = o.kind.account := by
  obtain ⟨parent, extensible, slots, kind⟩ := o
  cases kind <;> rfl

@[grind =] theorem account_close (o : Object) : o.close.kind.account = o.kind.account := rfl

end Object

namespace Heap

variable {h h' g : Heap}

/-- The account of the promises of a heap, by their cells. -/
def account (h : Heap) (p : Nat) : Option Bool := (h.object (.cell p)).kind.account

/-- A change of an object that keeps what it says of a promise keeps the account. -/
@[grind =] theorem account_modify (h : Heap) (r : Ref) {f : Object → Object}
    (hf : (f (h.object r)).kind.account = (h.object r).kind.account) :
    (h.modify r f).account = h.account := by
  funext p
  unfold account
  rcases object_modify_cases h r f (.cell p) with hsame | ⟨rfl, hchanged⟩
  · rw [hsame]
  · rw [hchanged, hf]

/-- A new object that is no rejected promise keeps the account. -/
@[grind =] theorem account_allocate (h : Heap) {o : Object} (ho : o.kind.account = none) :
    (h.allocate o).2.account = h.account := by
  funext p
  unfold account
  rw [object_allocate]
  split
  · rename_i hp
    have hbehind : h.object (.cell p) = {} := by simp [object, hp]
    rw [ho, hbehind]
    rfl
  · rfl

@[grind =] theorem account_makePlain (h : Heap) (l : List (String × Value)) :
    (h.makePlain l).2.account = h.account :=
  account_allocate h rfl

/-- The promises stay as they are as far as it is told of them, and so does what is fixed. -/
structure Keeps (h h' : Heap) : Prop where
  account : h'.account = h.account
  fixed : h.KeepsFixed h'

@[grind ←] theorem Keeps.refl (h : Heap) : h.Keeps h := ⟨rfl, .refl h⟩

theorem Keeps.trans (hg : h.Keeps g) (hh : g.Keeps h') : h.Keeps h' :=
  ⟨hh.account.trans hg.account, hg.fixed.trans hh.fixed⟩

@[grind ←] theorem Keeps.modify (hm : h.Keeps g) (r : Ref) {f : Object → Object}
    (haccount : (f (g.object r)).kind.account = (g.object r).kind.account)
    (hbuiltin : (f (g.object r)).kind.builtin? = (g.object r).kind.builtin?)
    (hfrozen : (g.object r).isFrozen = true → f (g.object r) = g.object r) :
    h.Keeps (g.modify r f) :=
  hm.trans ⟨account_modify g r haccount, keepsFixed_modify g r (fun _ => hfrozen) hbuiltin⟩

@[grind ←] theorem Keeps.modify_cell (hm : h.Keeps g) (i : Nat) {f : Object → Object}
    (haccount : (f (g.object (.cell i))).kind.account = (g.object (.cell i)).kind.account)
    (hbuiltin : (f (g.object (.cell i))).kind.builtin? = (g.object (.cell i)).kind.builtin?) :
    h.Keeps (g.modify (.cell i) f) :=
  hm.trans ⟨account_modify g _ haccount, keepsFixed_modify g _ (by simp) hbuiltin⟩

@[grind ←] theorem Keeps.modify_global (hm : h.Keeps g) {f : Object → Object}
    (haccount : (f (g.object Library.global)).kind.account =
      (g.object Library.global).kind.account)
    (hbuiltin : (f (g.object Library.global)).kind.builtin? =
      (g.object Library.global).kind.builtin?) :
    h.Keeps (g.modify Library.global f) :=
  hm.modify_cell 0 haccount hbuiltin

@[grind ←] theorem Keeps.allocate (hm : h.Keeps g) {o : Object} (ho : o.kind.account = none) :
    h.Keeps (g.allocate o).2 :=
  hm.trans ⟨account_allocate g ho, keepsFixed_allocate g o⟩

/-- Many changes keep what each of them keeps. -/
theorem Keeps.foldl {α : Type} {f : Heap → α → Heap} (hf : ∀ (g : Heap) a, g.Keeps (f g a)) (l : List α)
    (hm : h.Keeps g) : h.Keeps (l.foldl f g) := by
  induction l generalizing g with
  | nil => exact hm
  | cons a l ih => exact ih (hm.trans (hf g a))

@[grind ←] theorem Keeps.make (hm : h.Keeps g) {o : Object} (ho : o.kind.account = none) :
    h.Keeps (g.make o).2 :=
  hm.allocate ho

@[grind ←] theorem Keeps.makeArray (hm : h.Keeps g) (l : List Value) :
    h.Keeps (g.makeArray l).2 :=
  hm.allocate rfl

@[grind ←] theorem Keeps.makePlain (hm : h.Keeps g) (l : List (String × Value)) :
    h.Keeps (g.makePlain l).2 :=
  hm.allocate rfl

@[grind ←] theorem Keeps.makeError (hm : h.Keeps g) (kind : ErrorKind) (message : String) :
    h.Keeps (g.makeError kind message).2 :=
  hm.allocate rfl

@[grind ←] theorem Keeps.makeBuiltin (hm : h.Keeps g) (name : String) (b : Builtin) :
    h.Keeps (g.makeBuiltin name b).2 :=
  hm.allocate rfl

/-! ### Properties -/

@[grind ←] theorem Keeps.putHidden (hm : h.Keeps g) (i : Nat) (key : String) (v : Value) :
    h.Keeps (g.putHidden (.cell i) key v) :=
  hm.modify_cell i rfl rfl

theorem Keeps.of_setParent (hm : h.Keeps g) {r : Ref} {parent : Option Ref}
    (hfrozen : (g.object r).isFrozen ≠ true) (hw : g.setParent r parent = .ok h') : h.Keeps h' := by
  unfold setParent at hw
  grind

@[grind →] theorem Keeps.of_write (hm : h.Keeps g) {r : Ref} {key : String} {v : Value}
    (hw : g.write r key v = .ok h') : h.Keeps h' := by
  by_cases hfrozen : (g.object r).isFrozen = true
  · -- nothing is changed of a frozen object
    rcases write_of_isFrozen hfrozen key v with ⟨-, hsame⟩ | ⟨message, herror⟩
    · cases hsame.symm.trans hw
      exact hm
    · cases herror.symm.trans hw
  · have hparent : ∀ parent, g.setParent r parent = .ok h' → h.Keeps h' :=
      fun parent => hm.of_setParent hfrozen
    unfold write writeParent at hw
    grind

@[grind →] theorem Keeps.of_delete (hm : h.Keeps g) {r : Ref} {key : String}
    (hd : g.delete r key = .ok h') : h.Keeps h' := by
  -- of a frozen object nothing is deleted but what it does not have
  by_cases hr : (g.object r).isFrozen = true
  · rw [delete_of_isFrozen hr] at hd
    grind
  · unfold delete at hd
    grind

@[grind →] theorem Keeps.of_putAll (hm : h.Keeps g) {r : Ref} {l : List (String × Value)}
    (hp : Engine.putAll g r l = .ok h') : h.Keeps h' := by
  induction l generalizing g with
  | nil => cases hp; exact hm
  | cons e l ih =>
      rw [Engine.putAll] at hp
      split at hp
      · rename_i between hw
        exact ih (hm.of_write hw) hp
      · cases hp

/-! ### Data -/

@[grind ←] theorem Keeps.makePairs (hm : h.Keeps g) (l : List (String × Value)) :
    h.Keeps (Engine.makePairs g l).2 := by
  induction l generalizing g with
  | nil => exact hm
  | cons e l ih => exact ih (hm.makeArray _)

mutual

@[grind ←] theorem Keeps.ofDatum {h g : Heap} (hm : h.Keeps g) (d : Datum) :
    h.Keeps (g.ofDatum d).2 := by
  cases d with
  | array items => exact (Keeps.ofItems hm items).makeArray _
  | object members => exact (Keeps.ofMembers hm members).makePlain _
  | _ => exact hm

theorem Keeps.ofItems {h g : Heap} (hm : h.Keeps g) (l : List Datum) :
    h.Keeps (g.ofItems l).2 := by
  cases l with
  | nil => exact hm
  | cons d l => exact Keeps.ofItems (Keeps.ofDatum hm d) l

theorem Keeps.ofMembers {h g : Heap} (hm : h.Keeps g) (l : List (String × Datum)) :
    h.Keeps (g.ofMembers l).2 := by
  cases l with
  | nil => exact hm
  | cons e l => exact Keeps.ofMembers (Keeps.ofDatum hm e.2) l

end

end Heap

end HttpSuite.Script
