import Multimethod.Error

/-!
# What a body does

A body is a tree of effects, and what follows each of them may depend on what it gives back.
-/

namespace Multimethod

/-- Why a request to a function fails: it never reaches one that takes so many arguments, or it
raises an error there. -/
inductive Fault (ε : Type) where
  | unknownFunction
  | arityMismatch
  | raised (error : ε)
deriving DecidableEq

/-- Effects on arguments of type `A` and runtime types `T`, in surroundings `ρ`, with results `R`.
Functions are known by number. -/
inductive Action (A T ρ R : Type) : Kind → Type where
  | done {k : Kind} (result : R) : Action A T ρ R k
  | log {k : Kind} (line : String) (rest : Action A T ρ R k) : Action A T ρ R k
  | ask {k : Kind} (use : ρ → Action A T ρ R k) : Action A T ρ R k
  | size {k : Kind} (f : Nat) (use : Nat → Action A T ρ R k) : Action A T ρ R k
  | cached {k : Kind} (f : Nat) (use : Nat → Action A T ρ R k) : Action A T ρ R k
  | invoke {k : Kind} (f : Nat) (arguments : List A)
      (use : Except (Fault (DispatchError A T)) R → Action A T ρ R k) : Action A T ρ R k
  | register {k : Kind} (f : Nat) (signature : Signature T) (kind : Kind)
      (body : List A → Action A T ρ R kind)
      (use : Except (Fault (RegistrationError T)) Unit → Action A T ρ R k) : Action A T ρ R k
  | next (use : Except (DispatchError A T) R → Action A T ρ R .inner) : Action A T ρ R .inner
  | describe (use : Outline T → Action A T ρ R .inner) : Action A T ρ R .inner
  | fail (error : DispatchError A T) : Action A T ρ R .inner

abbrev Body (A T ρ R : Type) (k : Kind) := List A → Action A T ρ R k

end Multimethod
