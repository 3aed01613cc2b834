import Multimethod.Hierarchy.Tag
import Multimethod.Text.Quoted

/-!
# Hierarchies of named types

A type is declared below types of the same hierarchy, or else below its root, if there is one.
-/

namespace Multimethod

inductive DefinitionError where
  | duplicate (name : String)
  | foreign (name supertype : String)
deriving DecidableEq

namespace DefinitionError

def message : DefinitionError → String
  | duplicate name => "type `" ++ name ++ "` is already defined"
  | foreign name supertype =>
    "supertype `" ++ supertype ++ "` of `" ++ name ++ "` belongs to a different hierarchy"

end DefinitionError

structure Hierarchy where
  root : Option Tag := none
  /-- In the order of their declaration, the root first. -/
  types : List Tag := []
deriving DecidableEq

namespace Hierarchy

def rooted (serial : Nat) (name : String) : Hierarchy :=
  let root := Tag.ofSupertypes serial name []
  { root := some root, types := [root] }

def lookup (h : Hierarchy) (name : String) : Option Tag := h.types.find? (·.name = name)

/-- What this hierarchy knows under the tag's name is the tag itself. -/
def owns (h : Hierarchy) (t : Tag) : Bool := h.lookup t.name = some t

/-- The supertypes of a type declared below `supers`. -/
def supertypesOf (h : Hierarchy) (supers : List Tag) : List Tag :=
  if supers.isEmpty then h.root.toList else supers

/-- Declares a type under the serial number `serial`. A name in use is refused first, then the first
supertype of another hierarchy. -/
def define (h : Hierarchy) (serial : Nat) (name : String) (supers : List Tag) :
    Except DefinitionError (Tag × Hierarchy) :=
  if (h.lookup name).isSome then .error (.duplicate name)
  else
    match supers.find? fun s => !h.owns s with
    | some s => .error (.foreign name s.name)
    | none =>
      let tag := Tag.ofSupertypes serial name (h.supertypesOf supers)
      .ok (tag, { h with types := h.types ++ [tag] })

def size (h : Hierarchy) : Nat := h.types.length

def isEmpty (h : Hierarchy) : Bool := h.types.isEmpty

def description (h : Hierarchy) : String :=
  let root := h.root.elim "None" fun t => "Some(" ++ t.name ++ ")"
  let types := h.types.map fun t => Text.quoted t.name ++ ": " ++ t.name
  "TypeHierarchy " ++ Text.braced
    ["root: " ++ root, "types: \x7b" ++ Text.commaSeparated types ++ "\x7d"]

end Hierarchy

end Multimethod
