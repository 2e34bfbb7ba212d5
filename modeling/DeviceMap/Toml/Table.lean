import DeviceMap.Datum

/-! The tables of a TOML document as they are filled. A table may come into
being in three ways, which decide whether it may be extended later. -/
namespace DeviceMap.Toml

/-- How a table came into being. -/
inductive Origin where
  /-- By a header of its own, as the document, or as an element of a list. -/
  | declared
  /-- On the way to a table whose header has a longer path. -/
  | implied
  /-- On the way to a value whose key has a path. -/
  | dotted
deriving DecidableEq

/-- What a name stands for in a table. Of a list of tables only the last one
can still be extended. -/
inductive Node where
  | value (d : Datum)
  | table (origin : Origin) (entries : List (String × Node))
  | tables (earlier : List Datum) (last : List (String × Node))

/-- A table with its entries in the order in which they came. -/
structure Table where
  origin : Origin
  entries : List (String × Node)

/-- A value under a path of names. -/
structure Assignment where
  path : List String
  name : String
  value : Datum

mutual

/-- What a name stands for, as data. -/
def Node.datum : Node → Datum
  | .value d => d
  | .table _ entries => .record (entriesData entries)
  | .tables earlier last => .list (earlier ++ [.record (entriesData last)])

def entriesData : List (String × Node) → List (String × Datum)
  | [] => []
  | (name, node) :: rest => (name, node.datum) :: entriesData rest

end

namespace Table

/-- The table as data. -/
def datum (t : Table) : Datum := .record (entriesData t.entries)

/-- What a name stands for. -/
def find? (t : Table) (name : String) : Option Node :=
  (t.entries.find? (·.1 = name)).map (·.2)

/-- Replaces what a name stands for, or adds the name. -/
def put (t : Table) (name : String) (node : Node) : Table :=
  if (t.find? name).isSome then
    { t with entries := t.entries.map fun entry => if entry.1 = name then (name, node) else entry }
  else { t with entries := t.entries ++ [(name, node)] }

/-- Changes the table at the end of a path and makes the tables on the way that
are missing. The path may lead into the last table of a list. The path of a key
may not lead into a declared table, and no path leads through a value. -/
def change? (origin : Origin) (change : Table → Option Table) : List String → Table → Option Table
  | [], t => change t
  | name :: path, t =>
    match t.find? name with
    | none => do
      let inner ← change? origin change path ⟨origin, []⟩
      return t.put name (.table inner.origin inner.entries)
    | some (.table kind entries) =>
      if origin = .dotted ∧ kind = .declared then none
      else do
        let inner ← change? origin change path ⟨kind, entries⟩
        return t.put name (.table inner.origin inner.entries)
    | some (.tables earlier last) => do
      let inner ← change? origin change path ⟨.declared, last⟩
      return t.put name (.tables earlier inner.entries)
    | some (.value _) => none

/-- Adds a value. The table at the end of a path has to be one that came into
being on such a way, and the name has to be new. -/
def assign? (t : Table) (a : Assignment) : Option Table :=
  t.change? .dotted (fun inner =>
    if (inner.origin = .dotted ↔ a.path = []) ∨ (inner.find? a.name).isSome then none
    else some (inner.put a.name (.value a.value))) a.path

/-- Adds values one after the other. -/
def fill? (t : Table) (assignments : List Assignment) : Option Table :=
  assignments.foldlM assign? t

/-- A table of values alone. -/
def ofAssignments? (assignments : List Assignment) : Option Table :=
  fill? ⟨.declared, []⟩ assignments

end Table
end DeviceMap.Toml
