/-
HttpSuite/Toml/Basic.lean

TOML values, and how tables come about. A document names its tables piece by piece: a header opens a
table or one more table of a list, and an assignment puts a value at a path of keys below the open
one. Nothing can be given twice, and each table remembers how it came about (`Origin`), because that
decides what may still be added to it: a header opens only a table that other headers implied, and a
path of keys goes through tables of other paths alone.
-/
import HttpSuite.Number.Binary64
import HttpSuite.Table

namespace HttpSuite

/-- A TOML value. -/
inductive Toml where
  | string (s : String)
  | integer (n : Int)
  | float (x : Binary64)
  | bool (b : Bool)
  /-- A date, a time of day or both, as it is written. -/
  | moment (text : String)
  | array (l : List Toml)
  /-- Keys in the order in which they were given, each once. -/
  | table (l : List (String × Toml))
deriving Repr, Inhabited

namespace Toml

/-- How a table came about. -/
inductive Origin where
  /-- By a header for a table below it. -/
  | implied
  /-- By a path of keys. -/
  | path
  /-- By a header of its own. -/
  | header
deriving DecidableEq, Repr, Inhabited

/-- A part of a document that is being read. -/
inductive Node where
  | value (v : Toml)
  | table (origin : Origin) (l : List (String × Node))
  /-- A list of tables that headers add to. -/
  | tables (l : List (List (String × Node)))
deriving Inhabited

/-- The keys of a table that is being read. -/
abbrev Nodes := List (String × Node)

/-- The nodes with another node for a key. -/
def replaceNode (key : String) (node : Node) : Nodes → Nodes
  | [] => []
  | (k, n) :: rest => if k = key then (k, node) :: rest else (k, n) :: replaceNode key node rest

/-- Changes what lies at a path of headers; the last table of a list stands for the list. -/
def within (change : Nodes → Option Nodes) : List String → Nodes → Option Nodes
  | [], l => change l
  | key :: path, l =>
    match Table.find? key l with
    | none => (within change path []).map fun inner => l ++ [(key, .table .implied inner)]
    | some (.table origin inner) =>
      (within change path inner).map fun inner => replaceNode key (.table origin inner) l
    | some (.tables ts) =>
      (within change path (ts.getLast?.getD [])).map fun inner =>
        replaceNode key (.tables (ts.dropLast ++ [inner])) l
    | some (.value _) => none

/-- Gives a value to a path of keys. -/
def assign (v : Toml) : List String → Nodes → Option Nodes
  | [], _ => none
  | [key], l => if (Table.find? key l).isSome then none else some (l ++ [(key, .value v)])
  | key :: path, l =>
    match Table.find? key l with
    | none => (assign v path []).map fun inner => l ++ [(key, .table .path inner)]
    | some (.table .path inner) =>
      (assign v path inner).map fun inner => replaceNode key (.table .path inner) l
    | some (.table .implied inner) =>
      if path.length = 1 then none
      else (assign v path inner).map fun inner => replaceNode key (.table .implied inner) l
    | _ => none

/-- Opens a table. -/
def openTable (key : String) (l : Nodes) : Option Nodes :=
  match Table.find? key l with
  | none => some (l ++ [(key, .table .header [])])
  | some (.table .implied inner) => some (replaceNode key (.table .header inner) l)
  | _ => none

/-- Opens one more table of a list. -/
def openNext (key : String) (l : Nodes) : Option Nodes :=
  match Table.find? key l with
  | none => some (l ++ [(key, .tables [[]])])
  | some (.tables ts) => some (replaceNode key (.tables (ts ++ [[]])) l)
  | _ => none

mutual

/-- The value of a node. -/
def ofNode : Node → Toml
  | .value v => v
  | .table _ l => table (ofNodes l)
  | .tables ts => array (ofTables ts)

/-- The keys and values of nodes. -/
def ofNodes : Nodes → List (String × Toml)
  | [] => []
  | (key, node) :: rest => (key, ofNode node) :: ofNodes rest

/-- The tables of a list. -/
def ofTables : List Nodes → List Toml
  | [] => []
  | l :: rest => table (ofNodes l) :: ofTables rest

end

/-- The value of a key. -/
def get? (key : String) : Toml → Option Toml
  | table l => Table.find? key l
  | _ => none

end Toml

end HttpSuite
