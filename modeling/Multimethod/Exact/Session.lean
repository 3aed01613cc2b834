import Multimethod.Exact.Basic
import Multimethod.Store

/-! # Sessions with exact types -/

namespace Multimethod

abbrev ExactSession := Store ExactValue ExactType Unit String

abbrev ExactFunction := GenericFunction ExactType (Body ExactValue ExactType Unit String)

namespace ExactSession

def largestArity : Nat := 3

def start? (name : String) (arity : Nat) (withoutCache : Bool) : Option ExactSession :=
  let config : Config := if withoutCache then Config.withoutCache {} else {}
  let f : ExactFunction := { name, arity, config }
  if arity ≤ largestArity then some { scope := (), functions := [f] } else none

def handle : Nat := 0

def function? (s : ExactSession) : Option ExactFunction := s.functions[handle]?

def labelText (label : String) (arguments : List ExactValue) : String :=
  label ++ "(" ++ ",".intercalate (arguments.map (·.text)) ++ ")"

def labelled (label : String) : (kind : Kind) → Body ExactValue ExactType Unit String kind
  | .leaf, arguments => .done (labelText label arguments)
  | .inner, arguments => .next fun
    | .ok text => .done (labelText label arguments ++ ">" ++ text)
    | .error e => .fail e

def addMethod (s : ExactSession) (kind : Kind) (types : List ExactType) (label : String) :
    Except (Fault (RegistrationError ExactType)) Nat × ExactSession :=
  let (answer, s) := s.register handle ⟨⟨types⟩, kind, labelled label kind⟩
  (answer.map fun _ => s.size handle, s)

/-- No body calls a function, so calls are not nested. -/
def call (s : ExactSession) (arguments : List ExactValue) :
    Option (Except (Fault (DispatchError ExactValue ExactType)) String × ExactSession) :=
  s.invoke 1 handle arguments

def applicable (s : ExactSession) (types : List ExactType) :
    Except (Fault Empty) (List (List (Signature ExactType))) :=
  (s.find handle types.length).map (·.applicable ⟨types⟩)

end ExactSession

end Multimethod
