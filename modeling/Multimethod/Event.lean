import Multimethod.Chain

/-! # Events -/

namespace Multimethod

inductive Happening (T : Type) where
  /-- A method joined, and so many cached chains were dropped. -/
  | registered (kind : Kind) (dropped : Nat)
  | rejected
  | noneApplicable
  | resolved (candidates layers : Nat) (chain : Outline T)
  | cacheHit

structure Event (T : Type) where
  origin : Origin T
  happening : Happening T

namespace Event

variable {T : Type} [ToString T]

def text (e : Event T) : String :=
  let place := " operation=" ++ e.origin.operation ++ " signature=" ++ toString e.origin.signature
  match e.happening with
  | .registered kind dropped =>
    "DEBUG registered method" ++ place ++ " kind=" ++ toString kind ++ " dropped=" ++
      toString dropped
  | .rejected => "DEBUG rejected duplicate method" ++ place
  | .noneApplicable => "DEBUG no applicable methods" ++ place
  | .resolved candidates layers chain =>
    "DEBUG computed effective method" ++ place ++ " candidates=" ++ toString candidates ++
      " layers=" ++ toString layers ++ " chain=" ++ chain.text
  | .cacheHit => "TRACE cache hit" ++ place

end Event

end Multimethod
