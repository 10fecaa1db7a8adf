/-
HttpSuite/Proofs/Script/Heap.lean

Reading a heap after a change.  An object keeps its fields in a list, in which each name stands once:
a field that is put takes the place of the one that has its name, so of several fields that are put
one after the other the last one of a name is read (`Object.find?_foldl_putSlot`).  A change of one
object leaves the others as they are, and so does a new object.
-/
import HttpSuite.Script.Datum

namespace HttpSuite

/-! ### Tables -/

namespace Table

variable {α β : Type}

/-- An entry of a list whose values are changed is found with the changed value. -/
theorem find?_map (f : α → β) (l : List (String × α)) (k : String) :
    find? k (l.map fun e => (e.1, f e.2)) = (find? k l).map f := by
  induction l with
  | nil => rfl
  | cons e l ih =>
      by_cases hk : k = e.1
      · simp [find?, hk]
      · simp [find?, hk, ih]

/-- What is found is in the list. -/
theorem mem_of_find? {k : String} {v : α} {l : List (String × α)} (h : find? k l = some v) :
    (k, v) ∈ l := by
  induction l with
  | nil => cases h
  | cons e l ih =>
      obtain ⟨key, w⟩ := e
      by_cases hk : k = key
      · rw [find?, if_pos hk] at h
        cases h
        exact hk ▸ List.mem_cons_self
      · rw [find?, if_neg hk] at h
        exact List.mem_cons_of_mem _ (ih h)

theorem place_map (f : α → β) (key : String) (value : α) (l : List (String × α)) :
    place key (f value) (l.map fun e => (e.1, f e.2)) =
      (place key value l).map fun e => (e.1, f e.2) := by
  induction l with
  | nil => rfl
  | cons e l ih =>
      rw [List.map_cons, place, place, ih]
      split
      · rfl
      · split
        · rfl
        · rfl

/-- A table of changed values has the entries of the table with the values changed. -/
theorem entries_ofList_map (f : α → β) (l : List (String × α)) :
    (ofList (l.map fun e => (e.1, f e.2))).entries =
      (ofList l).entries.map fun e => (e.1, f e.2) := by
  have hrun : ∀ (t : Table α) (u : Table β), u.entries = t.entries.map (fun e => (e.1, f e.2)) →
      (u.insertAll (l.map fun e => (e.1, f e.2))).entries =
        (t.insertAll l).entries.map fun e => (e.1, f e.2) := by
    induction l with
    | nil => exact fun t u h => h
    | cons e l ih =>
        intro t u h
        refine ih (t.insert e.1 e.2) (u.insert e.1 (f e.2)) ?_
        show place e.1 (f e.2) u.entries = _
        rw [h, place_map]
        rfl
  exact hrun ∅ ∅ rfl

/-- No name stands twice in a table, so it does not matter from which end it is looked up. -/
theorem find?_reverse_entries (t : Table α) (k : String) :
    find? k t.entries.reverse = t.get? k := by
  have hlist : ∀ l : List (String × α), l.Pairwise (fun a b => a.1 < b.1) →
      find? k l.reverse = find? k l := by
    intro l hl
    induction l with
    | nil => rfl
    | cons e l ih =>
        obtain ⟨hfirst, hrest⟩ := List.pairwise_cons.mp hl
        rw [List.reverse_cons, find?_append, ih hrest]
        by_cases hk : k = e.1
        · have hnone : find? k l = none := by
            rw [find?_eq_none_iff]
            intro other hother heq
            have hlt := hfirst other hother
            rw [heq, hk] at hlt
            exact String.lt_irrefl e.1 hlt
          simp [find?, hk, hk ▸ hnone]
        · simp [find?, hk]
  exact hlist t.entries t.ordered

end Table

namespace Script

/-! ### Fields -/

/-- A field that is put behind others is found with its value, and the others as before. -/
theorem Object.find?_putSlot (key : String) (v : Value) (slots : List (String × Slot)) (k : String) :
    (Table.find? k (putSlot key v slots)).map (·.value) =
      if k = key then some v else (Table.find? k slots).map (·.value) := by
  induction slots with
  | nil =>
      by_cases hk : k = key
      · simp [putSlot, Table.find?, hk]
      · simp [putSlot, Table.find?, hk]
  | cons slot rest ih =>
      obtain ⟨name, s⟩ := slot
      rw [putSlot]
      by_cases hname : name = key
      · subst hname
        by_cases hk : k = name
        · simp [Table.find?, hk]
        · simp [Table.find?, hk]
      · by_cases hk : k = name
        · subst hk
          simp [Table.find?, hname]
        · simp [Table.find?, hname, hk, ih]

/-- Of fields that are put one after the other, the last one of a name stays. -/
theorem Object.find?_foldl_putSlot (fields : List (String × Value)) (slots : List (String × Slot))
    (k : String) :
    (Table.find? k (fields.foldl (fun slots (k, v) => putSlot k v slots) slots)).map (·.value) =
      (Table.find? k fields.reverse).or ((Table.find? k slots).map (·.value)) := by
  induction fields generalizing slots with
  | nil => rfl
  | cons field rest ih =>
      obtain ⟨name, v⟩ := field
      rw [List.foldl_cons, ih, find?_putSlot, List.reverse_cons, Table.find?_append,
        Option.or_assoc]
      by_cases hk : k = name
      · simp [Table.find?, hk]
      · simp [Table.find?, hk]

/-- A property that is put into an object is a property of the object itself. -/
theorem Object.exists_own?_put (o : Object) {key : String} (v : Value)
    (hindex : indexOfKey? key = none) (hlength : key ≠ "length") :
    ∃ s, (o.put key v).own? key = some s ∧ s.value = v := by
  obtain ⟨parent, extensible, slots, kind⟩ := o
  have hslots : ∃ s, Table.find? key (putSlot key v slots) = some s ∧ s.value = v := by
    have hfind := find?_putSlot key v slots key
    rw [if_pos rfl, Option.map_eq_some_iff] at hfind
    exact hfind
  cases kind with
  | array items writable => simpa only [put, own?, hindex, if_neg hlength] using hslots
  | _ => exact hslots

/-- A plain object has the fields that it is made of, of each name the last one. -/
theorem Given.own?_plain (fields : List (String × Value)) (key : String) :
    ((plain fields).own? key).map (·.value) = Table.find? key fields.reverse :=
  (Object.find?_foldl_putSlot fields [] key).trans Option.or_none

namespace Heap

/-- A property of the object itself is what is read. -/
theorem get_of_own? {h : Heap} {r : Ref} {key : String} {s : Slot}
    (hown : (h.object r).own? key = some s) : h.get (.object r) key = s.value := by
  have hslot : h.slot? r key = some s := by
    rw [slot?, inherited?, hown]
  unfold get property?
  by_cases hproto : key = "__proto__"
  · simp [hproto, methodsOf?, hproto ▸ hslot]
  · simp [hproto, methodsOf?, hslot]

/-- The same, told by the value of the property alone. -/
theorem get_of_own?_value {h : Heap} {r : Ref} {key : String} {v : Value}
    (hown : ((h.object r).own? key).map (·.value) = some v) : h.get (.object r) key = v := by
  obtain ⟨s, hs, rfl⟩ := Option.map_eq_some_iff.mp hown
  exact get_of_own? hs

/-! ### Objects after a change -/

/-- Whether there is an object at a place. -/
def Holds (h : Heap) : Ref → Prop
  | .given i => i < h.given.size
  | .cell i => i < h.cells.size

theorem object_modify_of_ne {h : Heap} {r r' : Ref} (hne : r ≠ r') (f : Object → Object) :
    (h.modify r f).object r' = h.object r' := by
  cases r with
  | given i =>
      cases r' with
      | given j =>
          have hij : i ≠ j := fun hij => hne (congrArg Ref.given hij)
          simp [modify, object, Array.getElem?_modify, hij]
      | cell j => rfl
  | cell i =>
      cases r' with
      | given j => rfl
      | cell j =>
          have hij : i ≠ j := fun hij => hne (congrArg Ref.cell hij)
          simp [modify, object, Array.getElem?_modify, hij]

theorem object_modify_self {h : Heap} {r : Ref} (hr : h.Holds r) (f : Object → Object) :
    (h.modify r f).object r = f (h.object r) := by
  cases r with
  | given i =>
      have hi : i < h.given.size := hr
      simp only [modify, object, Array.getElem?_modify, if_pos, Array.getElem?_eq_getElem hi]
      rfl
  | cell i =>
      have hi : i < h.cells.size := hr
      simp only [modify, object, Array.getElem?_modify, if_pos, Array.getElem?_eq_getElem hi]
      rfl

/-- Where there is no object, nothing is changed. -/
theorem object_modify_of_not_holds {h : Heap} {r : Ref} (hr : ¬ h.Holds r) (f : Object → Object) :
    (h.modify r f).object r = h.object r := by
  cases r with
  | given i =>
      have hi : h.given.size ≤ i := Nat.le_of_not_lt hr
      simp [modify, object, hi]
  | cell i =>
      have hi : h.cells.size ≤ i := Nat.le_of_not_lt hr
      simp [modify, object, hi]

/-- After a change at one place each object is as before, or it is the one there. -/
theorem object_modify_cases (h : Heap) (r : Ref) (f : Object → Object) (q : Ref) :
    (h.modify r f).object q = h.object q ∨
      q = r ∧ (h.modify r f).object q = f (h.object q) := by
  by_cases hq : r = q
  · subst hq
    by_cases hr : h.Holds r
    · exact .inr ⟨rfl, object_modify_self hr f⟩
    · exact .inl (object_modify_of_not_holds hr f)
  · exact .inl (object_modify_of_ne hq f)

/-- A new object lies behind the others. -/
theorem object_allocate (h : Heap) (o : Object) (i : Nat) :
    (h.allocate o).2.object (.cell i) = if i = h.cells.size then o else h.object (.cell i) := by
  simp only [allocate, object, Array.getElem?_push]
  split
  · rfl
  · rfl

end Heap

end Script

end HttpSuite
