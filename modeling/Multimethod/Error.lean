import Multimethod.Chain

/-! # Errors of calls and of registrations -/

namespace Multimethod

/-- A call that reached the end of a chain: why, where, and with which arguments. -/
structure DispatchError (A T : Type) where
  cause : Cause T
  origin : Origin T
  arguments : List A
deriving DecidableEq

namespace DispatchError

variable {A T : Type}

def operation (e : DispatchError A T) : String := e.origin.operation

def signature (e : DispatchError A T) : Signature T := e.origin.signature

def candidates (e : DispatchError A T) : List (Signature T) :=
  match e.cause with
  | .ambiguous candidates => candidates
  | _ => []

def kind (e : DispatchError A T) : String :=
  match e.cause with
  | .missing => "MissingMethod"
  | .ambiguous _ => "AmbiguousMethods"
  | .exhausted => "NoMoreMethods"

def isMissing (e : DispatchError A T) : Bool := e.cause matches .missing

def isAmbiguous (e : DispatchError A T) : Bool := e.cause matches .ambiguous _

def isExhausted (e : DispatchError A T) : Bool := e.cause matches .exhausted

variable [ToString A] [ToString T]

def message (e : DispatchError A T) : String :=
  let call := "on GenericFunction(" ++ e.operation ++ ") when invoked with " ++
    Text.bracketed (e.arguments.map toString)
  match e.cause with
  | .missing => "there are no applicable methods " ++ call
  | .ambiguous candidates =>
    "ambiguous method selection " ++ call ++ "; candidates are " ++
      Text.bracketed (candidates.map toString)
  | .exhausted => "there are no further applicable methods " ++ call

end DispatchError

structure RegistrationError (T : Type) where
  operation : String
  signature : Signature T
deriving DecidableEq

namespace RegistrationError

def message {T : Type} [ToString T] (e : RegistrationError T) : String :=
  "GenericFunction(" ++ e.operation ++ ") already has a method for " ++ toString e.signature

end RegistrationError

end Multimethod
