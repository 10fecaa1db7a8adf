/-
HttpSuite/Proofs/Script/Layering.lean

The data that a script is given lie in layers.  An array or an object is added behind all that it
holds, so each object holds only objects with smaller places, and functions of the library, which lie
in cells.

Main result: data that are added keep the layers (`Given.grows_ofDatum`).
-/
import HttpSuite.Proofs.Script.DeepFreeze
import HttpSuite.Script.Datum

namespace HttpSuite.Script

/-- A value that an object at a place may hold: objects with smaller places, and of the cells only
some. -/
def Value.IsBelow (cells : Nat → Prop) (place : Nat) : Value → Prop
  | .object (.given i) => i < place
  | .object (.cell i) => cells i
  | .undefined | .null | .bool _ | .number _ | .string _ => True

namespace Given

variable {cells : Nat → Prop} {given given' : Array Object} {place : Nat} {key : String} {s : Slot}

theorem isBelow_mono {n : Nat} (hle : place ≤ n) {v : Value} (h : v.IsBelow cells place) :
    v.IsBelow cells n := by
  match v, h with
  | .object (.given i), h => exact Nat.lt_of_lt_of_le h hle
  | .object (.cell i), h => exact h
  | .undefined, h | .null, h | .bool _, h | .number _, h | .string _, h => exact h

/-- An object that is no function, and whose properties all have values that it may hold at a place. -/
structure Fits (cells : Nat → Prop) (place : Nat) (o : Object) : Prop where
  callable : o.isCallable = false
  below : ∀ key s, o.own? key = some s → s.value.IsBelow cells place

theorem fits_plain {fields : List (String × Value)}
    (h : ∀ e ∈ fields, e.2.IsBelow cells place) : Fits cells place (plain fields) := by
  refine ⟨rfl, fun key s hs => ?_⟩
  have hfind : Table.find? key fields.reverse = some s.value := by
    rw [← own?_plain, hs]
    rfl
  exact h _ (List.mem_reverse.mp (Table.mem_of_find? hfind))

theorem fits_list {items : List Value} (h : ∀ v ∈ items, v.IsBelow cells place) :
    Fits cells place (list items) := by
  refine ⟨rfl, fun key s hs => ?_⟩
  unfold Object.own? list at hs
  dsimp only at hs
  split at hs
  · cases hs
    trivial
  · split at hs
    · cases hs
    · rename_i i _
      split at hs
      · rename_i v hv
        cases hs
        have hmem : some v ∈ items.map some := List.mem_of_getElem? (by simpa using hv)
        obtain ⟨w, hw, hsame⟩ := List.mem_map.mp hmem
        cases hsame
        exact h v hw
      · cases hs

/-- Each object fits its place. -/
def IsLayered (cells : Nat → Prop) (given : Array Object) : Prop :=
  ∀ i o, given[i]? = some o → Fits cells i o

/-- No object that is given is a function. -/
theorem IsLayered.isCallable (h : IsLayered cells given) (i : Nat) :
    (given[i]?.getD {}).isCallable = false := by
  cases hi : given[i]? with
  | none => rfl
  | some o => exact (h i o hi).callable

theorem isLayered_push (h : IsLayered cells given) {o : Object} (ho : Fits cells given.size o) :
    IsLayered cells (given.push o) := by
  intro i o' hi
  rw [Array.getElem?_push] at hi
  split at hi
  · rename_i hplace
    cases hi
    exact hplace ▸ ho
  · exact h i o' hi

/-- Objects are added in layers, and there are some values for the next ones. -/
structure Grows (cells : Nat → Prop) (given : Array Object) (values : List Value)
    (given' : Array Object) : Prop where
  layered : IsLayered cells given'
  size_le : given.size ≤ given'.size
  below : ∀ v ∈ values, v.IsBelow cells given'.size

/-- An object that holds nothing but the values is the next one. -/
theorem Grows.add {values : List Value} (h : Grows cells given values given') {o : Object}
    (ho : Fits cells given'.size o) : Grows cells given [(add given' o).1] (add given' o).2 := by
  refine ⟨isLayered_push h.layered ho, ?_, ?_⟩
  · show given.size ≤ (given'.push o).size
    rw [Array.size_push]
    exact Nat.le_succ_of_le h.size_le
  · intro v hv
    obtain rfl := List.mem_singleton.mp hv
    show given'.size < (given'.push o).size
    rw [Array.size_push]
    exact Nat.lt_succ_self _

/-- More values come with more objects. -/
theorem Grows.cons {v : Value} {values : List Value} {between : Array Object}
    (hfirst : Grows cells given [v] between) (hrest : Grows cells between values given') :
    Grows cells given (v :: values) given' := by
  refine ⟨hrest.layered, Nat.le_trans hfirst.size_le hrest.size_le, ?_⟩
  intro w hw
  rcases List.mem_cons.mp hw with rfl | hmem
  · exact isBelow_mono hrest.size_le (hfirst.below w List.mem_cons_self)
  · exact hrest.below w hmem

theorem Grows.simple (h : IsLayered cells given) {v : Value} (hv : v.IsBelow cells given.size) :
    Grows cells given [v] given :=
  ⟨h, Nat.le_refl _, fun _ hw => List.mem_singleton.mp hw ▸ hv⟩

mutual

/-- **Data in layers**: a datum adds its objects in layers. -/
theorem grows_ofDatum {cells : Nat → Prop} {given : Array Object} (h : IsLayered cells given)
    (d : Datum) : Grows cells given [(ofDatum given d).1] (ofDatum given d).2 := by
  cases d with
  | null => exact .simple h trivial
  | bool b => exact .simple h trivial
  | number x => exact .simple h trivial
  | string s => exact .simple h trivial
  | array items =>
      -- the items are added first, so that the array lies behind them
      have hitems := grows_ofItems h items
      exact hitems.add (fits_list hitems.below)
  | object members =>
      have hmembers := grows_ofMembers h members
      exact hmembers.add (fits_plain fun e he => hmembers.below _ (List.mem_map_of_mem he))

theorem grows_ofItems {cells : Nat → Prop} {given : Array Object} (h : IsLayered cells given)
    (l : List Datum) : Grows cells given (ofItems given l).1 (ofItems given l).2 := by
  cases l with
  | nil => exact ⟨h, Nat.le_refl _, fun _ hv => absurd hv List.not_mem_nil⟩
  | cons d l =>
      have hfirst := grows_ofDatum h d
      exact hfirst.cons (grows_ofItems hfirst.layered l)

theorem grows_ofMembers {cells : Nat → Prop} {given : Array Object} (h : IsLayered cells given)
    (l : List (String × Datum)) :
    Grows cells given ((ofMembers given l).1.map (·.2)) (ofMembers given l).2 := by
  cases l with
  | nil => exact ⟨h, Nat.le_refl _, fun _ hv => absurd hv List.not_mem_nil⟩
  | cons e l =>
      have hfirst := grows_ofDatum h e.2
      exact hfirst.cons (grows_ofMembers hfirst.layered l)

end

end Given

namespace Heap

variable {cells : Nat → Prop} {h : Heap}

/-- What a given object holds has been given before it, or is one of the functions in the cells. -/
theorem cases_of_given (hgiven : Given.IsLayered cells h.given) {i : Nat} {key : String} {q : Ref}
    (hown : ((h.object (.given i)).own? key).map (·.value) = some (.object q)) :
    (∃ j < i, q = .given j ∧ (h.object q).isCallable = false) ∨ ∃ j, q = .cell j ∧ cells j := by
  obtain ⟨s, hs, hvalue⟩ := Option.map_eq_some_iff.mp hown
  cases hi : h.given[i]? with
  | none =>
      rw [object, hi] at hs
      cases hs
  | some o =>
      rw [object, hi] at hs
      have hbelow := (hgiven i o hi).below key s hs
      rw [hvalue] at hbelow
      cases q with
      | given j => exact .inl ⟨j, hbelow, rfl, hgiven.isCallable j⟩
      | cell j => exact .inr ⟨j, rfl, hbelow⟩

/-- A heap is layered if what it was given is, and functions lie in the cells that come into it. -/
theorem isLayered_of_given (hgiven : Given.IsLayered cells h.given)
    (hcells : ∀ i, cells i → (h.object (.cell i)).isCallable = true) : h.IsLayered := by
  intro i key q hpart
  obtain ⟨hown, hcallable⟩ := part?_eq_some_iff.mp hpart
  rcases cases_of_given hgiven hown with ⟨j, hj, rfl, -⟩ | ⟨j, rfl, hcell⟩
  · exact ⟨j, hj, rfl⟩
  · rw [hcells j hcell] at hcallable
    cases hcallable

end Heap

end HttpSuite.Script
