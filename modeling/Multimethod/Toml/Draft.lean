import Multimethod.Toml.Key
import Multimethod.Toml.Value

/-!
# Tables under construction

A table remembers how it came to be: under a header of its own, as a parent of something that a header
names, or through a key with points. This decides what may still be added to it.
-/

namespace Multimethod.Toml

inductive Standing where
  | header
  | parent
  | dotted
deriving DecidableEq

/-- What stands under a key: a closed value, a table, or the tables of a header in double
brackets. -/
inductive Node where
  | value (v : Value)
  | table (standing : Standing) (entries : List (String × Node))
  | tables (elements : List (List (String × Node)))

abbrev Nodes := List (String × Node)

namespace Nodes

def replace (nodes : Nodes) (key : String) (node : Node) : Nodes :=
  nodes.map fun entry => if entry.1 = key then (key, node) else entry

/-- Goes down a path and changes the table at its end. Tables that are missing are made on the way;
a list of tables stands for its last one. A path through a key with points does not enter a table
with a header of its own. -/
def modify {α : Type} (dotted : Bool) (change : Standing → Nodes → Option (α × Nodes)) :
    List String → Standing → Nodes → Option (α × Nodes)
  | [], standing, nodes => change standing nodes
  | key :: path, _, nodes =>
    match nodes.lookup key with
    | none => do
      let standing := if dotted then .dotted else .parent
      let (a, inner) ← modify dotted change path standing []
      return (a, nodes ++ [(key, .table standing inner)])
    | some (.value _) => none
    | some (.table standing inner) =>
      if dotted ∧ standing = .header then none
      else do
        let (a, inner) ← modify dotted change path standing inner
        return (a, replace nodes key (.table standing inner))
    | some (.tables elements) => do
      let last ← elements.getLast?
      let (a, last) ← modify dotted change path .header last
      return (a, replace nodes key (.tables (elements.dropLast ++ [last])))

/-- Adds a value under a new key. A key with points adds to a table made by such keys only. -/
def insert (nodes : Nodes) (key : KeyPath) (v : Value) : Option Nodes :=
  let add (standing : Standing) (nodes : Nodes) : Option (Unit × Nodes) :=
    if (standing = .dotted) = (key.parents = []) ∨ (nodes.lookup key.name).isSome then none
    else some ((), nodes ++ [(key.name, .value v)])
  (modify true add key.parents .header nodes).map (·.2)

end Nodes

mutual

def Node.close : Node → Value
  | .value v => v
  | .table _ entries => .table (closeNodes entries)
  | .tables elements => .array (closeElements elements)

def closeNodes : List (String × Node) → Table
  | [] => []
  | (key, node) :: rest => (key, node.close) :: closeNodes rest

def closeElements : List (List (String × Node)) → List Value
  | [] => []
  | entries :: rest => .table (closeNodes entries) :: closeElements rest

end

/-! ## Documents under construction -/

/-- The table that lines are added to: the root, or the one that the last header names. -/
inductive Place where
  | root
  | table (key : KeyPath)
  | element (key : KeyPath)

structure Draft where
  root : Nodes := []
  place : Place := .root
  current : Nodes := []

namespace Draft

def insert (d : Draft) (key : KeyPath) (v : Value) : Option Draft :=
  (d.current.insert key v).map fun current => { d with current }

def finish (d : Draft) : Option Nodes :=
  match d.place with
  | .root => some d.current
  | .table key =>
    let add (_ : Standing) (nodes : Nodes) : Option (Unit × Nodes) :=
      some ((), nodes ++ [(key.name, .table .header d.current)])
    (Nodes.modify false add key.parents .header d.root).map (·.2)
  | .element key =>
    let add (_ : Standing) (nodes : Nodes) : Option (Unit × Nodes) :=
      match nodes.lookup key.name with
      | some (.tables elements) =>
        some ((), Nodes.replace nodes key.name (.tables (elements ++ [d.current])))
      | _ => none
    (Nodes.modify false add key.parents .header d.root).map (·.2)

/-- Starts the table of a header. A table that is only a parent so far is taken out and goes on;
anything else under the key is in the way. -/
def startTable (d : Draft) (key : KeyPath) : Option Draft := do
  let root ← d.finish
  let take (_ : Standing) (nodes : Nodes) : Option (Nodes × Nodes) :=
    match nodes.lookup key.name with
    | none => some ([], nodes)
    | some (.table .parent inner) => some (inner, nodes.filter (·.1 ≠ key.name))
    | some _ => none
  let (current, root) ← Nodes.modify false take key.parents .header root
  return { root, place := .table key, current }

def startElement (d : Draft) (key : KeyPath) : Option Draft := do
  let root ← d.finish
  let prepare (_ : Standing) (nodes : Nodes) : Option (Unit × Nodes) :=
    match nodes.lookup key.name with
    | none => some ((), nodes ++ [(key.name, .tables [])])
    | some (.tables _) => some ((), nodes)
    | some _ => none
  let (_, root) ← Nodes.modify false prepare key.parents .header root
  return { root, place := .element key, current := [] }

end Draft

end Multimethod.Toml
