import Multimethod.Signature

/-! # Methods -/

namespace Multimethod

/-- A leaf answers by itself; an inner method may go on with the next less specific one. -/
inductive Kind where
  | leaf
  | inner
deriving DecidableEq

instance : ToString Kind where
  toString
    | .leaf => "Leaf"
    | .inner => "Inner"

def Kind.description (k : Kind) : String := "Method::" ++ toString k

structure Method (T : Type) (β : Kind → Type) where
  signature : Signature T
  kind : Kind
  body : β kind

namespace Method

variable {T : Type} {β : Kind → Type}

instance [ToString T] : ToString (Method T β) where
  toString m :=
    "Entry " ++ Text.braced ["signature: " ++ toString m.signature, "kind: " ++ toString m.kind]

end Method

end Multimethod
