import Multimethod.Hierarchy.Realm
import Multimethod.Payload

/-!
# Names in a session

A name may be given again; it then stands for the newer thing.
-/

namespace Multimethod

inductive TypeRef where
  | aliased (name : String)
  | member (hierarchy name : String)
deriving DecidableEq

namespace TypeRef

/-- `@x` is an alias; otherwise the first colon ends the name of the hierarchy. -/
def read (s : String) : Option TypeRef :=
  match s.toList with
  | '@' :: name => some (.aliased (String.ofList name))
  | cs =>
    match cs.dropWhile (· ≠ ':') with
    | [] => none
    | _ :: name => some (.member (String.ofList (cs.takeWhile (· ≠ ':'))) (String.ofList name))

end TypeRef

structure Scope where
  realm : Realm := {}
  hierarchies : List (String × Nat) := []
  aliases : List (String × Tag) := []
  functions : List (String × Nat) := []

namespace Scope

def hierarchy? (s : Scope) (id : String) : Option Hierarchy :=
  (s.hierarchies.lookup id).bind s.realm.hierarchy?

def resolve (s : Scope) : TypeRef → Option Tag
  | .aliased name => s.aliases.lookup name
  | .member hierarchy name => (s.hierarchy? hierarchy).bind (·.lookup name)

def type? (s : Scope) (ref : String) : Option Tag := (TypeRef.read ref).bind s.resolve

def types? (s : Scope) (refs : List String) : Option (List Tag) := refs.mapM s.type?

def function? (s : Scope) (id : String) : Option Nat := s.functions.lookup id

end Scope

/-! ## Arguments by reference -/

inductive Source where
  | given (i : Nat)
  | retagged (i : Nat) (type : String)
  /-- One less than the number in an argument, of type `zero` once it is not positive. -/
  | decremented (i : Nat) (type zero : String)
  /-- The text in an argument without its first character, of type `empty` once nothing is left. -/
  | tail (i : Nat) (type empty : String)
  | literal (type : String) (value : Payload)

namespace Source

def resolve (scope : Scope) (arguments : List Argument) : Source → Option Argument
  | given i => arguments[i]?
  | retagged i type => do
    let a ← arguments[i]?
    let tag ← scope.type? type
    return { tag, value := a.value }
  | decremented i type zero => do
    let a ← arguments[i]?
    match a.value with
    | .integer n =>
      let tag ← scope.type? (if n - 1 ≤ 0 then zero else type)
      return { tag, value := .integer (n - 1) }
    | _ => none
  | tail i type empty => do
    let a ← arguments[i]?
    match a.value with
    | .text s =>
      let rest := s.toList.drop 1
      let tag ← scope.type? (if rest.isEmpty then empty else type)
      return { tag, value := .text (String.ofList rest) }
    | _ => none
  | literal type value => do
    let tag ← scope.type? type
    return { tag, value }

end Source

end Multimethod
