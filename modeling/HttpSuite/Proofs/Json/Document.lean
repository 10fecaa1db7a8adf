/-
HttpSuite/Proofs/Json/Document.lean

JSON documents.  The members of an object stand in a list, and a list may hold a name twice or its
names in any order.  In a document neither happens: in every object inside of it the names ascend.

Main result: what is read from a text is a document (`isDocument_of_parse?`).  The reader puts the
members of an object into a table when it has come to the end of the object, so it is enough that a
table has no entry that was not put into it.
-/
import HttpSuite.Json.Reader

namespace HttpSuite

/-- An entry of a table was there before or is one of those put in. -/
theorem Table.mem_of_mem_insertAll {α : Type} {t : Table α} {l : List (String × α)}
    {e : String × α} (h : e ∈ (t.insertAll l).entries) : e ∈ l ∨ e ∈ t.entries := by
  induction l generalizing t with
  | nil => exact .inr h
  | cons a l ih =>
      have hrest : e ∈ l ∨ e ∈ (t.insert a.1 a.2).entries := ih h
      rcases hrest with hl | hentry
      · exact .inl (List.mem_cons_of_mem a hl)
      · rcases Table.mem_place hentry with rfl | hold
        · exact .inl List.mem_cons_self
        · exact .inr hold

namespace Json

/-- Whether the names of the members of an object ascend; what is no object has no names. -/
def NamesAscend : Json → Prop
  | object members => members.Pairwise fun a b => a.1 < b.1
  | _ => True

/-- A document: its names ascend, and all that is directly inside of it is a document. -/
inductive IsDocument : Json → Prop
  | intro {v : Json} : v.NamesAscend → (∀ w ∈ v.children, IsDocument w) → IsDocument v

theorem IsDocument.namesAscend {v : Json} (h : v.IsDocument) : v.NamesAscend := by
  obtain ⟨hnames, -⟩ := h
  exact hnames

theorem IsDocument.child {v w : Json} (h : v.IsDocument) (hw : w ∈ v.children) :
    w.IsDocument := by
  obtain ⟨-, hchildren⟩ := h
  exact hchildren w hw

/-- What holds nothing is a document. -/
theorem isDocument_of_children {v : Json} (hnames : v.NamesAscend) (h : v.children = []) :
    v.IsDocument := by
  refine .intro hnames fun w hw => ?_
  rw [h] at hw
  exact absurd hw List.not_mem_nil

theorem isDocument_array {items : List Json} (h : ∀ w ∈ items, w.IsDocument) :
    (array items).IsDocument :=
  .intro trivial h

/-- The object of a list of members is a document if their values are, whatever their order. -/
theorem isDocument_ofMembers {members : List (String × Json)}
    (h : ∀ member ∈ members, member.2.IsDocument) : (ofMembers members).IsDocument := by
  refine .intro (Table.ofList members).ordered fun w hw => ?_
  obtain ⟨entry, hentry, rfl⟩ := List.mem_map.mp hw
  rcases Table.mem_of_mem_insertAll hentry with hmember | hempty
  · exact h entry hmember
  · exact absurd hempty List.not_mem_nil

/-! ### Reading -/

namespace Reader

/-- What the readers of values, items and members read with an amount of fuel is made of
documents. -/
structure ReadsDocuments (fuel : Nat) : Prop where
  value : ∀ {depth s v rest}, readValue fuel depth s = some (v, rest) → v.IsDocument
  items : ∀ {depth s items rest}, readItems fuel depth s = some (items, rest) →
    ∀ w ∈ items, w.IsDocument
  members : ∀ {depth s members rest}, readMembers fuel depth s = some (members, rest) →
    ∀ member ∈ members, member.2.IsDocument

/-- A value is a document if its items or members are. -/
theorem ReadsDocuments.value_succ {fuel : Nat} (ih : ReadsDocuments fuel) {depth : Nat}
    {s rest : List Char} {v : Json} (h : readValue (fuel + 1) depth s = some (v, rest)) :
    v.IsDocument := by
  rw [readValue] at h
  split at h
  · obtain ⟨rfl, -⟩ : null = v ∧ _ = rest := by simpa using h
    exact isDocument_of_children trivial rfl
  · obtain ⟨rfl, -⟩ : bool true = v ∧ _ = rest := by simpa using h
    exact isDocument_of_children trivial rfl
  · obtain ⟨rfl, -⟩ : bool false = v ∧ _ = rest := by simpa using h
    exact isDocument_of_children trivial rfl
  · obtain ⟨read, -, hread⟩ := Option.map_eq_some_iff.mp h
    obtain rfl : string read.1 = v := congrArg Prod.fst hread
    exact isDocument_of_children trivial rfl
  · -- an array
    split at h
    · simp at h
    · split at h
      · obtain ⟨rfl, -⟩ : array [] = v ∧ _ = rest := by simpa using h
        exact isDocument_of_children trivial rfl
      · obtain ⟨read, hitems, hread⟩ := Option.map_eq_some_iff.mp h
        obtain rfl : array read.1 = v := congrArg Prod.fst hread
        exact isDocument_array (ih.items hitems)
  · -- an object
    split at h
    · simp at h
    · split at h
      · obtain ⟨rfl, -⟩ : object [] = v ∧ _ = rest := by simpa using h
        exact isDocument_of_children List.Pairwise.nil rfl
      · obtain ⟨read, hmembers, hread⟩ := Option.map_eq_some_iff.mp h
        obtain rfl : ofMembers read.1 = v := congrArg Prod.fst hread
        exact isDocument_ofMembers (ih.members hmembers)
  · obtain ⟨read, -, hread⟩ := Option.map_eq_some_iff.mp h
    obtain rfl : number read.1 = v := congrArg Prod.fst hread
    exact isDocument_of_children trivial rfl

theorem ReadsDocuments.items_succ {fuel : Nat} (ih : ReadsDocuments fuel) {depth : Nat}
    {s rest : List Char} {items : List Json}
    (h : readItems (fuel + 1) depth s = some (items, rest)) : ∀ w ∈ items, w.IsDocument := by
  rw [readItems] at h
  split at h
  · simp at h
  · rename_i v _ hvalue
    have hv : v.IsDocument := ih.value hvalue
    split at h
    · obtain ⟨read, hitems, hread⟩ := Option.map_eq_some_iff.mp h
      obtain rfl : v :: read.1 = items := congrArg Prod.fst hread
      exact List.forall_mem_cons.mpr ⟨hv, ih.items hitems⟩
    · obtain ⟨rfl, -⟩ : [v] = items ∧ _ = rest := by simpa using h
      exact List.forall_mem_singleton.mpr hv
    · simp at h

theorem ReadsDocuments.members_succ {fuel : Nat} (ih : ReadsDocuments fuel) {depth : Nat}
    {s rest : List Char} {members : List (String × Json)}
    (h : readMembers (fuel + 1) depth s = some (members, rest)) :
    ∀ member ∈ members, member.2.IsDocument := by
  rw [readMembers] at h
  split at h
  · split at h
    · simp at h
    · rename_i key _ _
      split at h
      · split at h
        · simp at h
        · rename_i v _ hvalue
          have hv : (key, v).2.IsDocument := ih.value hvalue
          split at h
          · obtain ⟨read, hmembers, hread⟩ := Option.map_eq_some_iff.mp h
            obtain rfl : (key, v) :: read.1 = members := congrArg Prod.fst hread
            exact List.forall_mem_cons.mpr ⟨hv, ih.members hmembers⟩
          · obtain ⟨rfl, -⟩ : [(key, v)] = members ∧ _ = rest := by simpa using h
            exact List.forall_mem_singleton.mpr hv
          · simp at h
      · simp at h
  · simp at h

/-- The induction is on the fuel, which goes down from a container to what is inside of it. -/
theorem readsDocuments (fuel : Nat) : ReadsDocuments fuel := by
  induction fuel with
  | zero =>
      refine ⟨?_, ?_, ?_⟩
      · intro depth s v rest h
        simp [readValue] at h
      · intro depth s items rest h
        simp [readItems] at h
      · intro depth s members rest h
        simp [readMembers] at h
  | succ fuel ih => exact ⟨ih.value_succ, ih.items_succ, ih.members_succ⟩

end Reader

/-- **Documents**: what is read from a text is a document. -/
theorem isDocument_of_parse? {s : List Char} {v : Json} (h : parse? s = some v) :
    v.IsDocument := by
  rw [parse?] at h
  split at h
  · rename_i read rest hread
    split at h
    · obtain rfl : read = v := Option.some.inj h
      exact (Reader.readsDocuments _).value hread
    · simp at h
  · simp at h

end Json

end HttpSuite
