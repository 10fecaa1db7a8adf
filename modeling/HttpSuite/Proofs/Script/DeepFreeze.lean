/-
HttpSuite/Proofs/Script/DeepFreeze.lean

Freezing an object with all that lies within it.

While the traversal goes on it changes objects only by freezing them (`Froze`), and a frozen object has
the properties that it had; so what it still has to visit is told by the heap as it was at first.  It
goes only down to a depth.  This is enough where an object lies behind all that it holds (`IsLayered`):
then the places get smaller with each step down, and there are no more steps than places.

Main result: what lies within the object is frozen at the end (`isFrozen_deepFreeze`).
-/
import HttpSuite.Proofs.Script.Account
import HttpSuite.Proofs.Text.Decimal

namespace HttpSuite.Script

/-! ### Keys -/

/-- A key that is an index is written as this index. -/
theorem toString_of_indexOfKey? {key : String} {n : Nat} (h : indexOfKey? key = some n) :
    toString n = key := by
  unfold indexOfKey? at h
  have hwritten : ∀ cs : List Char, key.toList = cs → Nat.toDigits 10 n = cs → toString n = key := by
    intro cs hcs hdigits
    rw [Nat.toString_eq_ofList_toDigits, hdigits, ← hcs, String.ofList_toList]
  split at h
  · cases h
  · rename_i hkey
    cases h
    exact hwritten _ hkey rfl
  · cases h
  · rename_i cs hempty hone hzero
    split at h
    · cases h
    · split at h
      · rename_i m hm
        split at h
        · cases h
          refine hwritten _ rfl (Ascii.toDigits_of_natOfDigits? hm ?_)
          intro hhead
          obtain ⟨rest, hrest⟩ := List.head?_eq_some_iff.mp hhead
          exact hzero rest hrest
        · cases h
      · cases h

theorem mem_foldr_placeIndex {n : Nat} {l : List Nat} (h : n ∈ l) : n ∈ l.foldr placeIndex [] := by
  have hplace : ∀ (m : Nat) (l : List Nat), n = m ∨ n ∈ l → n ∈ placeIndex m l := by
    intro m l hn
    fun_induction placeIndex m l with
    | case1 => grind
    | case2 => grind
    | case3 k rest hlt ih => grind
  induction l with
  | nil => cases h
  | cons m l ih =>
      rw [List.foldr_cons]
      refine hplace m _ ?_
      rcases List.mem_cons.mp h with rfl | hl
      · exact .inl rfl
      · exact .inr (ih hl)

/-- No key is lost when the indices are put first. -/
theorem mem_indicesFirst {key : String} {keys : List String} (h : key ∈ keys) :
    key ∈ indicesFirst keys := by
  rw [indicesFirst, List.mem_append]
  cases hindex : indexOfKey? key with
  | none => exact .inr (List.mem_filter.mpr ⟨h, by rw [hindex]; rfl⟩)
  | some n =>
      have hn : n ∈ keys.filterMap indexOfKey? := List.mem_filterMap.mpr ⟨key, h, hindex⟩
      exact .inl (List.mem_map.mpr ⟨n, mem_foldr_placeIndex hn, toString_of_indexOfKey? hindex⟩)

namespace Object

variable {o : Object} {key : String} {s : Slot}

theorem mem_itemKeys {items : List (Option Value)} {i : Nat} {v : Value} (start : Nat)
    (h : items[i]? = some (some v)) : toString (start + i) ∈ itemKeys start items := by
  induction items generalizing start i with
  | nil => cases h
  | cons item items ih =>
      cases i with
      | zero =>
          obtain rfl : item = some v := by simpa using h
          exact List.mem_cons_self
      | succ i =>
          have hrest : toString (start + 1 + i) ∈ itemKeys (start + 1) items := ih (start + 1) h
          rw [show start + 1 + i = start + (i + 1) by omega] at hrest
          cases item with
          | none => exact hrest
          | some w => exact List.mem_cons_of_mem _ hrest

/-- Each property of an object has its key among those of the object. -/
theorem mem_keys_of_own? (h : o.own? key = some s) : key ∈ o.keys := by
  have hslots : Table.find? key o.slots = some s → key ∈ indicesFirst (o.slots.map (·.1)) :=
    fun hfind => mem_indicesFirst (List.mem_map.mpr ⟨_, Table.mem_of_find? hfind, rfl⟩)
  obtain ⟨parent, extensible, slots, kind⟩ := o
  cases kind with
  | array items writable =>
      show key ∈ itemKeys 0 items.toList ++ "length" :: indicesFirst (slots.map (·.1))
      unfold own? at h
      dsimp only at h
      split at h
      · rename_i hlength
        exact List.mem_append_right _ (hlength ▸ List.mem_cons_self)
      · split at h
        · exact List.mem_append_right _ (List.mem_cons_of_mem _ (hslots h))
        · rename_i i hindex
          split at h
          · rename_i v hv
            have hitem : toString (0 + i) ∈ itemKeys 0 items.toList :=
              mem_itemKeys 0 (by simpa using hv)
            rw [Nat.zero_add, toString_of_indexOfKey? hindex] at hitem
            exact List.mem_append_left _ hitem
          · exact List.mem_append_right _ (List.mem_cons_of_mem _ (hslots h))
  | _ => exact hslots h

end Object

namespace Heap

variable {h h' g : Heap} {r q : Ref} {key : String}

/-! ### What the traversal changes -/

/-- Each object is as it was, or it has been frozen. -/
structure Froze (h h' : Heap) : Prop where
  object : ∀ r, h'.object r = h.object r ∨ h'.object r = (h.object r).freeze
  holds : ∀ r, h'.Holds r ↔ h.Holds r

theorem Froze.refl (h : Heap) : h.Froze h := ⟨fun _ => .inl rfl, fun _ => .rfl⟩

theorem Froze.trans (hg : h.Froze g) (hh : g.Froze h') : h.Froze h' := by
  refine ⟨fun r => ?_, fun r => (hh.holds r).trans (hg.holds r)⟩
  have hfreeze : (h.object r).freeze.freeze = (h.object r).freeze :=
    Object.freeze_of_isFrozen (Object.isFrozen_freeze _)
  -- an object that is frozen twice is as if it had been frozen once
  rcases hg.object r with hsame | hfrozen
  · rw [← hsame]
    exact hh.object r
  · rcases hh.object r with hsame' | hfrozen'
    · rw [hsame', hfrozen]
      exact .inr rfl
    · rw [hfrozen', hfrozen, hfreeze]
      exact .inr rfl

theorem froze_freeze (h : Heap) (r : Ref) : h.Froze (h.modify r Object.freeze) := by
  constructor
  · intro q
    exact (object_modify_cases h r _ q).imp_right And.right
  · intro q
    cases r with
    | given i => cases q <;> simp [Holds, modify]
    | cell i => cases q <;> simp [Holds, modify]

theorem Froze.isFrozen (hg : h.Froze g) (hr : (h.object r).isFrozen = true) :
    (g.object r).isFrozen = true := by
  rcases hg.object r with hsame | hfrozen
  · rw [hsame, hr]
  · rw [hfrozen, Object.isFrozen_freeze]

theorem Froze.value_own? (hg : h.Froze g) (r : Ref) (key : String) :
    ((g.object r).own? key).map (·.value) = ((h.object r).own? key).map (·.value) := by
  rcases hg.object r with hsame | hfrozen
  · rw [hsame]
  · rw [hfrozen, Object.value_own?_freeze]

theorem Froze.isCallable (hg : h.Froze g) (r : Ref) :
    (g.object r).isCallable = (h.object r).isCallable := by
  rcases hg.object r with hsame | hfrozen
  · rw [hsame]
  · rw [hfrozen, Object.isCallable_freeze]

/-! ### What lies within an object -/

theorem part?_eq_some_iff :
    h.part? r key = some q ↔
      ((h.object r).own? key).map (·.value) = some (.object q) ∧
        (h.object q).isCallable = false := by
  unfold part?
  split
  · rename_i p _ _ _ hown
    rw [hown]
    constructor
    · intro hq
      split at hq
      · cases hq
      · rename_i hcallable
        cases hq
        exact ⟨rfl, by simpa using hcallable⟩
    · rintro ⟨hp, hcallable⟩
      obtain rfl : p = q := by simpa using hp
      rw [hcallable]
      rfl
  · rename_i hnone
    constructor
    · intro hq
      cases hq
    · rintro ⟨hown, -⟩
      obtain ⟨⟨value, writable, enumerable, configurable⟩, hs, rfl⟩ := Option.map_eq_some_iff.mp hown
      exact absurd hs (hnone q writable enumerable configurable)

/-- Freezing objects does not change what lies within them. -/
theorem Froze.part? (hg : h.Froze g) (r : Ref) (key : String) : g.part? r key = h.part? r key := by
  refine Option.ext fun q => ?_
  rw [part?_eq_some_iff, part?_eq_some_iff, hg.value_own?, hg.isCallable]

/-- A change elsewhere does not change them either, if functions stay functions. -/
theorem part?_modify_of_ne {p : Ref} {f : Object → Object} (hne : p ≠ r)
    (hf : ∀ o, (f o).isCallable = o.isCallable) (key : String) :
    (h.modify p f).part? r key = h.part? r key := by
  have hcallable : ∀ q, ((h.modify p f).object q).isCallable = (h.object q).isCallable := by
    intro q
    rcases object_modify_cases h p f q with hsame | ⟨-, hchanged⟩
    · rw [hsame]
    · rw [hchanged, hf]
  refine Option.ext fun q => ?_
  rw [part?_eq_some_iff, part?_eq_some_iff, object_modify_of_ne hne, hcallable]

/-- What the traversal visits from an object: the object itself, and what it visits from those that its
own properties have as their values and that are no functions. -/
inductive Within (h : Heap) : Ref → Ref → Prop
  | self (r : Ref) : Within h r r
  | part {r q q' : Ref} {key : String} (hpart : h.part? r key = some q) (hwithin : Within h q q') :
      Within h r q'

theorem Within.trans {q' : Ref} (hq : h.Within r q) (hq' : h.Within q q') : h.Within r q' := by
  induction hq with
  | self => exact hq'
  | part hpart _ ih => exact .part hpart (ih hq')

theorem Within.of_froze (hg : h.Froze g) (hw : h.Within r q) : g.Within r q := by
  induction hw with
  | self r => exact .self r
  | part hpart _ ih => exact .part ((hg.part? _ _).trans hpart) ih

/-- What can be reached from an object over properties that belong to the objects themselves, functions
included. -/
inductive Reachable (h : Heap) : Ref → Ref → Prop
  | self (r : Ref) : Reachable h r r
  | property {r q q' : Ref} {key : String}
      (hown : ((h.object r).own? key).map (·.value) = some (.object q))
      (hreach : Reachable h q q') : Reachable h r q'

/-- Whatever the traversal visits can be reached. -/
theorem Within.reachable (hw : h.Within r q) : h.Reachable r q := by
  induction hw with
  | self r => exact .self r
  | part hpart _ ih => exact .property (part?_eq_some_iff.mp hpart).1 ih

/-! ### The traversal -/

/-- One turn of the traversal: what a property has as its value is frozen with all that lies within
it. -/
def freezePart (depth : Nat) (r : Ref) (h : Heap) (key : String) : Heap :=
  match h.part? r key with
  | some q => h.deepFreeze depth q
  | none => h

theorem deepFreeze_succ (h : Heap) (depth : Nat) (r : Ref) :
    h.deepFreeze (depth + 1) r =
      ((h.object r).keys.foldl (freezePart depth r) h).modify r Object.freeze :=
  rfl

theorem froze_foldl {depth : Nat} (hdeep : ∀ (g : Heap) q, g.Froze (g.deepFreeze depth q)) (r : Ref)
    (keys : List String) (h : Heap) : h.Froze (keys.foldl (freezePart depth r) h) := by
  induction keys generalizing h with
  | nil => exact .refl h
  | cons key keys ih =>
      refine Froze.trans ?_ (ih _)
      unfold freezePart
      split
      · exact hdeep h _
      · exact .refl h

/-- The traversal does nothing but freeze objects. -/
theorem froze_deepFreeze (h : Heap) (depth : Nat) (r : Ref) : h.Froze (h.deepFreeze depth r) := by
  induction depth generalizing h r with
  | zero => exact .refl h
  | succ depth ih =>
      rw [deepFreeze_succ]
      exact (froze_foldl ih r _ h).trans (froze_freeze _ r)

/-- Each part is visited at some time: before, objects have only been frozen, and after it, too. -/
theorem exists_visit {depth : Nat} {keys : List String} (hkey : key ∈ keys)
    (hpart : h.part? r key = some q) :
    ∃ g, h.Froze g ∧ (g.deepFreeze depth q).Froze (keys.foldl (freezePart depth r) h) := by
  induction keys generalizing h with
  | nil => cases hkey
  | cons first keys ih =>
      have hfirst : h.Froze (freezePart depth r h first) :=
        froze_foldl (fun g q => froze_deepFreeze g depth q) r [first] h
      -- the part is visited now, or with one of the keys that are left
      rcases List.mem_cons.mp hkey with rfl | hmem
      · refine ⟨h, .refl h, ?_⟩
        rw [List.foldl_cons, freezePart, hpart]
        exact froze_foldl (fun g q => froze_deepFreeze g depth q) r keys _
      · obtain ⟨g, hbefore, hafter⟩ := ih hmem ((hfirst.part? r key).trans hpart)
        exact ⟨g, hfirst.trans hbefore, hafter⟩

/-- Of the objects that a script was given, each lies behind all that it holds. -/
def IsLayered (h : Heap) : Prop :=
  ∀ i key q, h.part? (.given i) key = some q → ∃ j < i, q = .given j

/-- What lies within an object that the script was given has been given, too. -/
theorem IsLayered.exists_given (hlayered : h.IsLayered) {i : Nat} (hw : h.Within (.given i) q) :
    ∃ j ≤ i, q = .given j := by
  generalize hr : Ref.given i = r at hw
  induction hw generalizing i with
  | self => exact ⟨i, Nat.le_refl i, hr.symm⟩
  | part hpart _ ih =>
      subst hr
      obtain ⟨j, hj, rfl⟩ := hlayered i _ _ hpart
      obtain ⟨k, hk, hq⟩ := ih rfl
      exact ⟨k, Nat.le_trans hk (Nat.le_of_lt hj), hq⟩

/-- What lies within it is told by the parts of the objects that have been given. -/
theorem IsLayered.within_of_part? (hlayered : h.IsLayered)
    (hpart : ∀ i key, g.part? (.given i) key = h.part? (.given i) key) {i : Nat}
    (hw : h.Within (.given i) q) : g.Within (.given i) q := by
  generalize hr : Ref.given i = r at hw
  induction hw generalizing i with
  | self => exact hr ▸ .self _
  | part hfirst _ ih =>
      subst hr
      obtain ⟨j, -, rfl⟩ := hlayered i _ _ hfirst
      exact .part ((hpart i _).trans hfirst) (ih rfl)

theorem IsLayered.of_froze (hlayered : h.IsLayered) (hg : h.Froze g) : g.IsLayered :=
  fun i key q hpart => hlayered i key q ((hg.part? _ _).symm.trans hpart)

/-- **Deep freezing**: whatever lies within an object that the script was given is frozen. -/
theorem isFrozen_deepFreeze (hlayered : h.IsLayered) {i : Nat} (hi : i < h.given.size) {depth : Nat}
    (hdepth : i < depth) (hwithin : h.Within (.given i) q) :
    ((h.deepFreeze depth (.given i)).object q).isFrozen = true := by
  -- the induction is on the depth, which stays above the place of the object
  induction depth generalizing h i with
  | zero => cases hdepth
  | succ depth ih =>
      rw [deepFreeze_succ]
      have hparts := froze_foldl (fun g q => froze_deepFreeze g depth q) (.given i)
        (h.object (.given i)).keys h
      cases hwithin with
      | self =>
          have hholds : h.Holds (.given i) := hi
          rw [object_modify_self ((hparts.holds _).mpr hholds), Object.isFrozen_freeze]
      | @part _ p _ key hpart hrest =>
          obtain ⟨j, hj, rfl⟩ := hlayered i key p hpart
          obtain ⟨s, hs, -⟩ := Option.map_eq_some_iff.mp (part?_eq_some_iff.mp hpart).1
          have hkey := Object.mem_keys_of_own? hs
          obtain ⟨g, hbefore, hafter⟩ :
              ∃ g, h.Froze g ∧ (g.deepFreeze depth (.given j)).Froze _ := exists_visit hkey hpart
          -- the part is smaller, and it is as it was at first when it is visited
          have hsize : j < g.given.size := (hbefore.holds (.given j)).mpr (Nat.lt_trans hj hi)
          have hvisited := ih (hlayered.of_froze hbefore) hsize (by omega) (hrest.of_froze hbefore)
          exact (froze_freeze _ _).isFrozen (hafter.isFrozen hvisited)

/-- No cell is changed by the traversal of an object that the script was given. -/
theorem cells_deepFreeze (hlayered : h.IsLayered) (depth i : Nat) :
    (h.deepFreeze depth (.given i)).cells = h.cells := by
  induction depth generalizing h i with
  | zero => rfl
  | succ depth ih =>
      have hparts : ∀ (keys : List String) (g : Heap), h.Froze g →
          (keys.foldl (freezePart depth (.given i)) g).cells = g.cells := by
        intro keys
        induction keys with
        | nil => exact fun g _ => rfl
        | cons key keys ihkeys =>
            intro g hg
            have hone : h.Froze (freezePart depth (.given i) g key) :=
              hg.trans (froze_foldl (fun g q => froze_deepFreeze g depth q) (.given i) [key] g)
            refine (ihkeys _ hone).trans ?_
            have hlayered' := hlayered.of_froze hg
            unfold freezePart
            split
            · rename_i q hpart
              obtain ⟨j, -, rfl⟩ := hlayered' i key q hpart
              exact ih hlayered' j
            · rfl
      rw [deepFreeze_succ]
      exact hparts _ h (.refl h)

end Heap

end HttpSuite.Script
