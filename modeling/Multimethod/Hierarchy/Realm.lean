import Multimethod.Hierarchy.Basic

/-!
# All hierarchies of a program

They draw the serial numbers of their types from one supply.
-/

namespace Multimethod

structure Realm where
  /-- The first serial number not taken yet. -/
  next : Nat := 1
  hierarchies : List Hierarchy := []

namespace Realm

def hierarchy? (r : Realm) (i : Nat) : Option Hierarchy := r.hierarchies[i]?

def create (r : Realm) (root : Option String) : Realm :=
  match root with
  | none => { r with hierarchies := r.hierarchies ++ [{}] }
  | some name =>
    { next := r.next + 1, hierarchies := r.hierarchies ++ [Hierarchy.rooted r.next name] }

def define (r : Realm) (i : Nat) (name : String) (supers : List Tag) :
    Option (Except DefinitionError (Tag × Realm)) :=
  (r.hierarchy? i).map fun h =>
    match h.define r.next name supers with
    | .error e => .error e
    | .ok (tag, h') =>
      .ok (tag, { next := r.next + 1, hierarchies := r.hierarchies.set i h' })

end Realm

end Multimethod
