import Multimethod.Action
import Multimethod.Function

/-!
# Functions at work

The chain that is running stays as it was found, whatever the bodies register.
-/

namespace Multimethod

structure Store (A T ρ R : Type) where
  /-- What the bodies can ask for. -/
  scope : ρ
  functions : List (GenericFunction T (Body A T ρ R)) := []
  log : Array String := #[]
  events : Array (Nat × Event T) := #[]

/-- What running something in a store gives: nothing if calls are nested too deeply. -/
abbrev Run (A T ρ R α : Type) := Store A T ρ R → Option (α × Store A T ρ R)

structure Below (A T ρ R : Type) where
  run : Run A T ρ R (Except (DispatchError A T) R)
  outline : Outline T

variable {A T ρ R : Type}

namespace Store

/-! ## Single steps -/

def find {ε : Type} (s : Store A T ρ R) (f arity : Nat) :
    Except (Fault ε) (GenericFunction T (Body A T ρ R)) :=
  match s.functions[f]? with
  | none => .error .unknownFunction
  | some g => if g.arity = arity then .ok g else .error .arityMismatch

/-- Keeps the function that a step leaves, and its event. -/
def commit {α : Type} (s : Store A T ρ R) (f : Nat) (step : Step T (Body A T ρ R) α) :
    Store A T ρ R :=
  { s with
    functions := s.functions.set f step.function
    events := s.events.push (f, step.event) }

def size (s : Store A T ρ R) (f : Nat) : Nat := s.functions[f]?.elim 0 (·.size)

def cached (s : Store A T ρ R) (f : Nat) : Nat := s.functions[f]?.elim 0 (·.cachedSignatures)

def add (s : Store A T ρ R) (g : GenericFunction T (Body A T ρ R)) : Nat × Store A T ρ R :=
  (s.functions.length, { s with functions := s.functions ++ [g] })

def register [DecidableEq T] (s : Store A T ρ R) (f : Nat) (m : Method T (Body A T ρ R)) :
    Except (Fault (RegistrationError T)) Unit × Store A T ρ R :=
  match s.find f m.signature.arity with
  | .error fault => (.error fault, s)
  | .ok g =>
    let step := g.register m
    (step.answer.mapError .raised, s.commit f step)

end Store

/-! ## Running bodies and chains -/

variable [DecidableEq T]

/-- Runs a body, with `call` for the calls that it makes. -/
def Action.run (call : Nat → List A → Run A T ρ R (Except (Fault (DispatchError A T)) R)) :
    {k : Kind} → Action A T ρ R k → (k = .inner → Below A T ρ R) →
      Run A T ρ R (Except (DispatchError A T) R)
  | _, .done result, _, s => some (.ok result, s)
  | _, .log line rest, below, s => rest.run call below { s with log := s.log.push line }
  | _, .ask use, below, s => (use s.scope).run call below s
  | _, .size f use, below, s => (use (s.size f)).run call below s
  | _, .cached f use, below, s => (use (s.cached f)).run call below s
  | _, .invoke f arguments use, below, s =>
    match call f arguments s with
    | none => none
    | some (answer, s) => (use answer).run call below s
  | _, .register f signature kind body use, below, s =>
    let (answer, s) := s.register f ⟨signature, kind, body⟩
    (use answer).run call below s
  | _, .next use, below, s =>
    match (below rfl).run s with
    | none => none
    | some (answer, s) => (use answer).run call below s
  | _, .describe use, below, s => (use (below rfl).outline).run call below s
  | _, .fail error, _, s => some (.error error, s)

/-- Runs the first link of a chain; an inner body decides whether the next one is run. -/
def Chain.run (call : Nat → List A → Run A T ρ R (Except (Fault (DispatchError A T)) R))
    (arguments : List A) : Chain T (Body A T ρ R) → Run A T ρ R (Except (DispatchError A T) R)
  | .leaf _ body, s => (body arguments).run call nofun s
  | .inner _ body next, s =>
    (body arguments).run call (fun _ => ⟨next.run call arguments, next.outline⟩) s
  | .stop cause origin, s => some (.error ⟨cause, origin, arguments⟩, s)

variable [Descriptor T] [Typed A T]

/-- Calls the function with the given number, with calls nested at most `depth` deep. -/
def Store.invoke : (depth : Nat) → (f : Nat) → (arguments : List A) →
    Run A T ρ R (Except (Fault (DispatchError A T)) R)
  | 0, _, _, _ => none
  | depth + 1, f, arguments, s =>
    match s.find f arguments.length with
    | .error fault => some (.error fault, s)
    | .ok g =>
      let step := g.lookup (Signature.of arguments)
      match step.answer.run (Store.invoke depth) arguments (s.commit f step) with
      | none => none
      | some (answer, s) => some (answer.mapError .raised, s)

end Multimethod
