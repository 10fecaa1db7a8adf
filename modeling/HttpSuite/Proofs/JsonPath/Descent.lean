/-
HttpSuite/Proofs/JsonPath/Descent.lean

Descents.  The nodes of a document are what its addresses lead to, each at one address, and the
addresses stand in document order: a node comes before what is inside of it, an item before the
items behind it, and a member before those whose names are greater.  `nodes` lists the nodes with
their addresses in this order, and without the addresses it is the list of the descendants.

Main result: the expression `$..name` selects, in document order, the value of this member from each
node that has one, and `$..*` selects each node but the root once (`select_descent`).  The lists of
what is selected carry the addresses of the nodes, so that each node is told from the others even
where their values are equal.
-/
import HttpSuite.Proofs.Json.Document
import HttpSuite.Proofs.JsonPath.Address

namespace HttpSuite

namespace Json

/-! ### Steps -/

/-- The value that a step leads to. -/
def next? : Step → Json → Option Json
  | .member name, v => v.get? name
  | .item n, v => v.item? n

/-- The steps into a value, in order, with what they lead to. -/
def steps : Json → List (Step × Json)
  | array items => items.zipIdx.map fun item => (.item item.2, item.1)
  | object members => members.map fun member => (.member member.1, member.2)
  | _ => []

/-- The order of the steps into one value. -/
def Step.Before : Step → Step → Prop
  | member name, member name' => name < name'
  | item n, item n' => n < n'
  | _, _ => False

theorem Step.Before.ne {s s' : Step} (h : s.Before s') : s ≠ s' := by
  rintro rfl
  cases s with
  | member name => exact String.lt_irrefl name h
  | item n => exact Nat.lt_irrefl n h

theorem at?_cons (s : Step) (path : List Step) (v : Json) :
    at? (s :: path) v = (next? s v).bind (at? path) := by
  cases s <;> rfl

/-- An address behind an address leads on from the node there. -/
theorem at?_append (path path' : List Step) (v : Json) :
    at? (path ++ path') v = (at? path v).bind (at? path') := by
  induction path generalizing v with
  | nil => rfl
  | cons s path ih =>
      rw [List.cons_append, at?_cons, at?_cons, Option.bind_assoc]
      exact congrArg (Option.bind (next? s v)) (funext ih)

theorem map_snd_steps (v : Json) : v.steps.map (·.2) = v.children := by
  cases v with
  | array items => simp [steps, children, Function.comp_def]
  | object members => simp [steps, children, Function.comp_def]
  | _ => rfl

/-- The steps into a document are in order. -/
theorem IsDocument.pairwise_steps {v : Json} (h : v.IsDocument) :
    v.steps.Pairwise fun a b => a.1.Before b.1 := by
  cases v with
  | array items =>
      refine List.pairwise_map.mpr (List.pairwise_iff_getElem.mpr fun i j hi hj hij => ?_)
      simpa [Step.Before] using hij
  | object members => exact List.pairwise_map.mpr h.namesAscend
  | _ => exact List.Pairwise.nil

/-- Among names that ascend, the look-up finds every member. -/
theorem find?_eq_some_iff {members : List (String × Json)}
    (h : members.Pairwise fun a b => a.1 < b.1) {name : String} {w : Json} :
    Table.find? name members = some w ↔ (name, w) ∈ members := by
  induction members with
  | nil => simp [Table.find?]
  | cons member members ih =>
      obtain ⟨key, v⟩ := member
      obtain ⟨hkey, hrest⟩ := List.pairwise_cons.mp h
      rw [Table.find?, List.mem_cons, Prod.mk.injEq]
      by_cases hname : name = key
      · -- no member behind this one has its name
        have hnot : (name, w) ∉ members := fun hmem =>
          String.lt_irrefl key (hname ▸ hkey _ hmem)
        simp [hname, hname ▸ hnot, eq_comm]
      · rw [if_neg hname, ih hrest]
        simp [hname]

/-- The steps into a document lead to what they are listed with. -/
theorem IsDocument.mem_steps_iff {v : Json} (h : v.IsDocument) {s : Step} {w : Json} :
    (s, w) ∈ v.steps ↔ next? s v = some w := by
  cases v with
  | array items =>
      cases s with
      | member name => simp [steps, next?, get?]
      | item n => simp [steps, next?, item?, List.mem_zipIdx_iff_getElem?]
  | object members =>
      cases s with
      | member name =>
          rw [next?, get?, find?_eq_some_iff h.namesAscend]
          simp [steps]
      | item n => simp [steps, next?, item?]
  | _ => cases s <;> simp [steps, next?, get?, item?]

/-- What a step into a document leads to is directly inside of it. -/
theorem IsDocument.mem_children {v : Json} (h : v.IsDocument) {s : Step} {w : Json}
    (hnext : next? s v = some w) : w ∈ v.children :=
  map_snd_steps v ▸ List.mem_map_of_mem (h.mem_steps_iff.mpr hnext)

theorem IsDocument.of_at? {v node : Json} (h : v.IsDocument) {path : List Step}
    (hnode : v.at? path = some node) : node.IsDocument := by
  induction path generalizing v with
  | nil =>
      obtain rfl : v = node := Option.some.inj hnode
      exact h
  | cons s path ih =>
      rw [at?_cons] at hnode
      obtain ⟨w, hnext, hpath⟩ := Option.bind_eq_some_iff.mp hnode
      exact ih (h.child (h.mem_children hnext)) hpath

/-! ### Nodes -/

/-- A node inside of what a step leads to, seen from in front of the step. -/
def behind (s : Step) (node : List Step × Json) : List Step × Json := (s :: node.1, node.2)

mutual

/-- The nodes of a value with their addresses, in document order. -/
def nodes : Json → List (List Step × Json)
  | array items => ([], array items) :: nodesOfItems 0 items
  | object members => ([], object members) :: nodesOfMembers members
  | v => [([], v)]

/-- The nodes of the items from an index on. -/
def nodesOfItems : Nat → List Json → List (List Step × Json)
  | _, [] => []
  | n, v :: rest => (nodes v).map (behind (.item n)) ++ nodesOfItems (n + 1) rest

/-- The nodes of the values of members. -/
def nodesOfMembers : List (String × Json) → List (List Step × Json)
  | [] => []
  | (name, v) :: rest => (nodes v).map (behind (.member name)) ++ nodesOfMembers rest

end

theorem nodesOfItems_eq_flatMap (n : Nat) (items : List Json) :
    nodesOfItems n items =
      (items.zipIdx n).flatMap fun item => (nodes item.1).map (behind (.item item.2)) := by
  induction items generalizing n with
  | nil => rfl
  | cons v rest ih => rw [nodesOfItems, ih, List.zipIdx_cons, List.flatMap_cons]

theorem nodesOfMembers_eq_flatMap (members : List (String × Json)) :
    nodesOfMembers members =
      members.flatMap fun member => (nodes member.2).map (behind (.member member.1)) := by
  induction members with
  | nil => rfl
  | cons member rest ih => rw [nodesOfMembers, ih, List.flatMap_cons]

/-- The nodes of a value are the value and then, step by step, the nodes behind the step. -/
theorem nodes_eq (v : Json) :
    nodes v = ([], v) :: v.steps.flatMap fun step => (nodes step.2).map (behind step.1) := by
  cases v with
  | array items =>
      rw [nodes, nodesOfItems_eq_flatMap, steps, List.flatMap_map]
  | object members =>
      rw [nodes, nodesOfMembers_eq_flatMap, steps, List.flatMap_map]
  | _ => rfl

theorem descendantsOfItems_eq_flatMap (items : List Json) :
    descendantsOfItems items = items.flatMap descendants := by
  induction items with
  | nil => rfl
  | cons v rest ih => rw [descendantsOfItems, ih, List.flatMap_cons]

theorem descendantsOfMembers_eq_flatMap (members : List (String × Json)) :
    descendantsOfMembers members = (members.map (·.2)).flatMap descendants := by
  induction members with
  | nil => rfl
  | cons member rest ih => rw [descendantsOfMembers, ih, List.map_cons, List.flatMap_cons]

theorem descendants_eq (v : Json) : v.descendants = v :: v.children.flatMap descendants := by
  cases v with
  | array items => rw [descendants, descendantsOfItems_eq_flatMap, children]
  | object members => rw [descendants, descendantsOfMembers_eq_flatMap, children]
  | _ => rfl

/-- Without their addresses the nodes are the descendants. -/
theorem IsDocument.map_snd_nodes {v : Json} (h : v.IsDocument) :
    (nodes v).map (·.2) = v.descendants := by
  induction h with
  | @intro v hnames hchildren ih =>
      rw [nodes_eq, descendants_eq, List.map_cons, ← map_snd_steps, List.flatMap_map,
        List.map_flatMap]
      refine congrArg (v :: ·) (List.flatMap_congr fun step hstep => ?_)
      have hchild : step.2 ∈ v.children := map_snd_steps v ▸ List.mem_map_of_mem hstep
      rw [List.map_map, ← ih _ hchild]
      rfl

/-- The nodes are listed with the addresses that lead to them. -/
theorem IsDocument.mem_nodes_iff {v : Json} (h : v.IsDocument) {path : List Step} {node : Json} :
    (path, node) ∈ nodes v ↔ v.at? path = some node := by
  induction h generalizing path with
  | @intro v hnames hchildren ih =>
      have hv : v.IsDocument := .intro hnames hchildren
      rw [nodes_eq, List.mem_cons, List.mem_flatMap]
      cases path with
      | nil => simp [behind, at?, eq_comm]
      | cons s path =>
          rw [at?_cons, Option.bind_eq_some_iff]
          constructor
          · rintro (hroot | ⟨⟨s', w⟩, hstep, hnode⟩)
            · simp at hroot
            · obtain ⟨inner, hinner, heq⟩ := List.mem_map.mp hnode
              obtain ⟨⟨rfl, rfl⟩, rfl⟩ : (s' = s ∧ inner.1 = path) ∧ inner.2 = node := by
                simpa [behind] using heq
              have hnext : next? s' v = some w := hv.mem_steps_iff.mp hstep
              exact ⟨w, hnext, (ih w (hv.mem_children hnext)).mp hinner⟩
          · rintro ⟨w, hnext, hpath⟩
            have hinner : (path, node) ∈ nodes w := (ih w (hv.mem_children hnext)).mpr hpath
            exact .inr ⟨(s, w), hv.mem_steps_iff.mpr hnext, List.mem_map_of_mem hinner⟩

/-! ### Document order -/

/-- The order of addresses in a document: an address comes before those that go on behind it, and
otherwise the first step that differs decides. -/
def Precedes : List Step → List Step → Prop := List.Lex Step.Before

theorem Precedes.ne {path path' : List Step} (h : Precedes path path') : path ≠ path' := by
  induction h with
  | nil => exact (List.cons_ne_nil _ _).symm
  | rel hstep => exact fun heq => hstep.ne (List.cons.inj heq).1
  | cons _ ih => exact fun heq => ih (List.cons.inj heq).2

/-- The nodes are listed in document order. -/
theorem IsDocument.pairwise_nodes {v : Json} (h : v.IsDocument) :
    (nodes v).Pairwise fun a b => Precedes a.1 b.1 := by
  induction h with
  | @intro v hnames hchildren ih =>
      have hv : v.IsDocument := .intro hnames hchildren
      rw [nodes_eq, List.pairwise_cons, List.pairwise_flatMap]
      refine ⟨fun node hnode => ?_, fun step hstep => ?_, ?_⟩
      · -- the value itself stands in front of all that is inside of it
        obtain ⟨step, -, hinner⟩ := List.mem_flatMap.mp hnode
        obtain ⟨inner, -, rfl⟩ := List.mem_map.mp hinner
        exact .nil
      · have hchild : step.2 ∈ v.children := map_snd_steps v ▸ List.mem_map_of_mem hstep
        exact List.pairwise_map.mpr ((ih _ hchild).imp .cons)
      · refine hv.pairwise_steps.imp fun {a b} hab node hnode node' hnode' => ?_
        obtain ⟨inner, -, rfl⟩ := List.mem_map.mp hnode
        obtain ⟨inner', -, rfl⟩ := List.mem_map.mp hnode'
        exact .rel hab

/-! ### What the nodes hold -/

/-- The values of the members of a name, with the addresses of their owners. -/
def membersNamed (name : String) (v : Json) : List (List Step × Json) :=
  (nodes v).filterMap fun node => (node.2.get? name).map (node.1, ·)

/-- All that is directly inside of a node, with its address, node by node. -/
def innerNodes (v : Json) : List (List Step × Json) :=
  (nodes v).flatMap fun node => node.2.steps.map fun step => (node.1 ++ [step.1], step.2)

theorem IsDocument.mem_membersNamed_iff {v : Json} (h : v.IsDocument) {name : String}
    {path : List Step} {value : Json} :
    (path, value) ∈ membersNamed name v ↔
      ∃ owner, v.at? path = some owner ∧ owner.get? name = some value := by
  rw [membersNamed, List.mem_filterMap]
  constructor
  · rintro ⟨⟨path', owner⟩, hnode, hmember⟩
    obtain ⟨value', hvalue, heq⟩ := Option.map_eq_some_iff.mp hmember
    obtain ⟨rfl, rfl⟩ : path' = path ∧ value' = value := by simpa using heq
    exact ⟨owner, h.mem_nodes_iff.mp hnode, hvalue⟩
  · rintro ⟨owner, howner, hvalue⟩
    exact ⟨(path, owner), h.mem_nodes_iff.mpr howner, by rw [hvalue]; rfl⟩

theorem IsDocument.pairwise_membersNamed {v : Json} (h : v.IsDocument) (name : String) :
    (membersNamed name v).Pairwise fun a b => Precedes a.1 b.1 := by
  refine h.pairwise_nodes.filterMap _ fun node node' hbefore found hfound found' hfound' => ?_
  obtain ⟨value, -, rfl⟩ := Option.map_eq_some_iff.mp hfound
  obtain ⟨value', -, rfl⟩ := Option.map_eq_some_iff.mp hfound'
  exact hbefore

theorem IsDocument.map_snd_membersNamed {v : Json} (h : v.IsDocument) (name : String) :
    (membersNamed name v).map (·.2) = v.descendants.filterMap (·.get? name) := by
  rw [← h.map_snd_nodes, membersNamed, List.map_filterMap, List.filterMap_map]
  refine List.filterMap_congr fun node _ => ?_
  show ((node.2.get? name).map (node.1, ·)).map (·.2) = node.2.get? name
  rw [Option.map_map]
  exact Option.map_id'

/-- A node other than the root is directly inside of another node. -/
theorem IsDocument.mem_innerNodes_iff {v : Json} (h : v.IsDocument) {path : List Step}
    {node : Json} : (path, node) ∈ innerNodes v ↔ path ≠ [] ∧ v.at? path = some node := by
  rw [innerNodes, List.mem_flatMap]
  constructor
  · rintro ⟨⟨front, owner⟩, howner, hnode⟩
    obtain ⟨⟨s, w⟩, hstep, heq⟩ := List.mem_map.mp hnode
    obtain ⟨rfl, rfl⟩ : front ++ [s] = path ∧ w = node := by simpa using heq
    have hat : v.at? front = some owner := h.mem_nodes_iff.mp howner
    have hnext : next? s owner = some w := (h.of_at? hat).mem_steps_iff.mp hstep
    refine ⟨List.append_ne_nil_of_right_ne_nil _ (List.cons_ne_nil _ _), ?_⟩
    rw [at?_append, hat, Option.bind_some, at?_cons, hnext]
    rfl
  · rintro ⟨hne, hnode⟩
    -- the last step of the address leads out of the owner
    obtain ⟨front, s, rfl⟩ : ∃ front s, path = front ++ [s] :=
      ⟨path.dropLast, path.getLast hne, (List.dropLast_append_getLast hne).symm⟩
    rw [at?_append] at hnode
    obtain ⟨owner, hat, hlast⟩ := Option.bind_eq_some_iff.mp hnode
    rw [at?_cons] at hlast
    obtain ⟨w, hnext, hw⟩ := Option.bind_eq_some_iff.mp hlast
    obtain rfl : w = node := Option.some.inj hw
    have hstep : (s, w) ∈ owner.steps := (h.of_at? hat).mem_steps_iff.mpr hnext
    exact ⟨(front, owner), h.mem_nodes_iff.mpr hat, List.mem_map.mpr ⟨(s, w), hstep, rfl⟩⟩

/-- No node is directly inside of two nodes, or twice inside of one. -/
theorem IsDocument.nodup_innerNodes {v : Json} (h : v.IsDocument) :
    ((innerNodes v).map (·.1)).Nodup := by
  rw [innerNodes, List.map_flatMap, List.Nodup, List.pairwise_flatMap]
  refine ⟨fun ⟨path, owner⟩ howner => ?_, ?_⟩
  · have hdocument : owner.IsDocument := h.of_at? (h.mem_nodes_iff.mp howner)
    refine List.pairwise_map.mpr (List.pairwise_map.mpr (hdocument.pairwise_steps.imp ?_))
    intro step step' hbefore heq
    exact hbefore.ne (List.cons.inj (List.append_cancel_left heq)).1
  · refine h.pairwise_nodes.imp fun {owner owner'} hbefore path hpath path' hpath' heq => ?_
    obtain ⟨found, hfound, rfl⟩ := List.mem_map.mp hpath
    obtain ⟨found', hfound', rfl⟩ := List.mem_map.mp hpath'
    obtain ⟨step, -, rfl⟩ := List.mem_map.mp hfound
    obtain ⟨step', -, rfl⟩ := List.mem_map.mp hfound'
    exact hbefore.ne (List.append_inj_left' heq rfl)

theorem IsDocument.map_snd_innerNodes {v : Json} (h : v.IsDocument) :
    (innerNodes v).map (·.2) = v.descendants.flatMap children := by
  rw [← h.map_snd_nodes, innerNodes, List.map_flatMap, List.flatMap_map]
  refine List.flatMap_congr fun node _ => ?_
  rw [List.map_map, ← map_snd_steps]
  rfl

end Json

namespace JsonPath

open Json (Step Precedes)
open Text (trim)

/-! ### Selection -/

/-- Behind two full stops a name writes a descent to the members of this name. -/
theorem select_descend {name : String} (hname : IsName name.toList)
    (hend : ∀ c, name.toList.getLast? = some c → Text.isBlank c = false) (v : Json) :
    select v ("$.." ++ name) = some (v.descendants.filterMap (·.get? name)) := by
  have htext : (".." ++ name).toList = '.' :: '.' :: (name.toList ++ []) := by simp
  have htrim : trim (".." ++ name).toList = (".." ++ name).toList := by
    refine Text.trim_eq_self_iff.mpr ⟨fun c hc => ?_, fun c hc => ?_⟩
    · rw [htext] at hc
      obtain rfl : '.' = c := Option.some.inj hc
      decide
    · rw [String.toList_append, List.getLast?_append, Option.or_eq_some_iff] at hc
      rcases hc with hlast | ⟨-, hstop⟩
      · exact hend c hlast
      · obtain rfl : '.' = c := Option.some.inj hstop
        decide
  have hexpression : "$.." ++ name = "$" ++ (".." ++ name) := String.toList_inj.mp (by simp)
  rw [hexpression, select_dollar htrim, htext, segments_descend hname .nil]
  simp [segments, follow, Segment.step, String.ofList_toList]

/-- Behind two full stops an asterisk writes a descent to everything. -/
theorem select_descendAll (v : Json) :
    select v "$..*" = some (v.descendants.flatMap Json.children) := by
  have hsegments : segments "..*".toList = some [.descend none] := by
    have hspells : segments (['.', '.', '*'] ++ []) = (segments []).map (.descend none :: ·) :=
      Spells.descendAll.segments_append .nil
    rw [segments] at hspells
    exact hspells
  have hexpression : "$..*" = "$" ++ "..*" := by decide
  rw [hexpression, select_dollar (by decide), hsegments]
  simp [follow, Segment.step]

/-- **Descents**: in a document, the descent to a name selects in document order what the nodes hold
under this name, each node that does once, and the descent to everything selects each node but the
root once. -/
theorem select_descent {v : Json} (hv : v.IsDocument) {name : String}
    (hname : IsName name.toList)
    (hend : ∀ c, name.toList.getLast? = some c → Text.isBlank c = false) :
    (∃ found : List (List Step × Json),
      select v ("$.." ++ name) = some (found.map (·.2)) ∧
      found.Pairwise (fun a b => Precedes a.1 b.1) ∧
      ∀ path value, (path, value) ∈ found ↔
        ∃ owner, v.at? path = some owner ∧ owner.get? name = some value) ∧
    ∃ found : List (List Step × Json),
      select v "$..*" = some (found.map (·.2)) ∧
      (found.map (·.1)).Nodup ∧
      ∀ path node, (path, node) ∈ found ↔ path ≠ [] ∧ v.at? path = some node := by
  refine ⟨⟨v.membersNamed name, ?_, hv.pairwise_membersNamed name, ?_⟩,
    ⟨v.innerNodes, ?_, hv.nodup_innerNodes, ?_⟩⟩
  · rw [select_descend hname hend, hv.map_snd_membersNamed]
  · intro path value
    exact hv.mem_membersNamed_iff
  · rw [select_descendAll, hv.map_snd_innerNodes]
  · intro path node
    exact hv.mem_innerNodes_iff

/-- Members of one name inside of each other, and in an array that is read before them. -/
theorem select_descent_nested :
    let inner := Json.object [("id", .ofNat 1)]
    let v := Json.array [.object [("id", inner)],
      .object [("a", .array [.object [("id", .ofNat 3)]]), ("id", .ofNat 2)]]
    v.IsDocument ∧
    (IsName "id".toList ∧ ∀ c, "id".toList.getLast? = some c → Text.isBlank c = false) ∧
    (∃ found : List (List Step × Json),
      select v "$..id" = some (found.map (·.2)) ∧
      found.Pairwise (fun a b => Precedes a.1 b.1) ∧
      ∀ path value, (path, value) ∈ found ↔
        ∃ owner, v.at? path = some owner ∧ owner.get? "id" = some value) ∧
    (select v "$..id" = some [inner, .ofNat 1, .ofNat 2, .ofNat 3] ∧
      (select v "$..*").map List.length = some 8) := by
  intro inner v
  have hnumber : ∀ n, (Json.ofNat n).IsDocument := fun n => Json.isDocument_of_children trivial rfl
  have hone : ∀ w : Json, w.IsDocument → (Json.object [("id", w)]).IsDocument := fun w hw =>
    .intro (List.pairwise_singleton _ _) (List.forall_mem_singleton.mpr hw)
  have hitems : (Json.array [.object [("id", .ofNat 3)]]).IsDocument :=
    Json.isDocument_array (List.forall_mem_singleton.mpr (hone _ (hnumber 3)))
  have hdocument : v.IsDocument := by
    refine Json.isDocument_array (List.forall_mem_cons.mpr ⟨hone _ (hone _ (hnumber 1)), ?_⟩)
    refine List.forall_mem_singleton.mpr (.intro (List.pairwise_pair.mpr (by decide)) ?_)
    exact List.forall_mem_cons.mpr ⟨hitems, List.forall_mem_singleton.mpr (hnumber 2)⟩
  have hchars : ∀ c ∈ "id".toList, isNameChar c = true := List.all_eq_true.mp rfl
  have hname : IsName "id".toList := ⟨by decide, hchars, by decide⟩
  have hend : ∀ c, "id".toList.getLast? = some c → Text.isBlank c = false := by
    rintro c ⟨⟩
    decide
  have hids : select v "$..id" = some [inner, .ofNat 1, .ofNat 2, .ofNat 3] := by
    rw [show "$..id" = "$.." ++ "id" from rfl, select_descend hname hend]
    rfl
  have hall : (select v "$..*").map List.length = some 8 := by
    rw [select_descendAll]
    rfl
  exact ⟨hdocument, ⟨hname, hend⟩, (select_descent hdocument hname hend).1, hids, hall⟩

end JsonPath

end HttpSuite
