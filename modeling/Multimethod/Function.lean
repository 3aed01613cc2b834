import Multimethod.Config.Basic
import Multimethod.Error
import Multimethod.Event
import Multimethod.Stats
import Multimethod.Text.Quoted

/-!
# Generic functions

A function owns its methods and the chains that it built since the last of them joined.
-/

namespace Multimethod

structure GenericFunction (T : Type) (β : Kind → Type) where
  name : String
  arity : Nat
  config : Config := {}
  methods : List (Method T β) := []
  cache : List (Signature T × Chain T β) := []
  stats : Stats := {}

/-- One step of a function: its answer, its event, and the function afterwards. -/
structure Step (T : Type) (β : Kind → Type) (α : Type) where
  answer : α
  event : Event T
  function : GenericFunction T β

namespace GenericFunction

variable {T : Type} {β : Kind → Type}

def signatures (f : GenericFunction T β) : List (Signature T) := f.methods.map (·.signature)

def size (f : GenericFunction T β) : Nat := f.methods.length

def isEmpty (f : GenericFunction T β) : Bool := f.size = 0

def cachedSignatures (f : GenericFunction T β) : Nat := f.cache.length

def display (f : GenericFunction T β) : String := "GenericFunction(" ++ f.name ++ ")"

def description [ToString T] (f : GenericFunction T β) : String :=
  "GenericFunction " ++ Text.braced
    ["name: " ++ Text.quoted f.name, "arity: " ++ toString f.arity,
      "methods: " ++ Text.bracketed (f.methods.map toString),
      "cached: " ++ toString f.cachedSignatures]

/-! ## Registration -/

section

variable [DecidableEq T]

/-- Adds a method behind the others and empties the cache. A signature in use is refused, whatever
the kind of the method, and nothing changes. -/
def register (f : GenericFunction T β) (m : Method T β) :
    Step T β (Except (RegistrationError T) Unit) :=
  let origin := ⟨f.name, m.signature⟩
  if m.signature ∈ f.signatures then
    { answer := .error ⟨f.name, m.signature⟩, event := ⟨origin, .rejected⟩, function := f }
  else
    { answer := .ok ()
      event := ⟨origin, .registered m.kind f.cache.length⟩
      function :=
        { f with
          methods := f.methods ++ [m]
          cache := []
          stats :=
            { f.stats with
              registrations := f.stats.registrations + 1
              invalidations := f.stats.invalidations + 1 } } }

theorem function_register_of_mem {f : GenericFunction T β} {m : Method T β}
    (h : m.signature ∈ f.signatures) : (f.register m).function = f := by
  simp [register, h]

theorem methods_register_of_not_mem {f : GenericFunction T β} {m : Method T β}
    (h : m.signature ∉ f.signatures) : (f.register m).function.methods = f.methods ++ [m] := by
  simp [register, h]

theorem cache_register_of_not_mem {f : GenericFunction T β} {m : Method T β}
    (h : m.signature ∉ f.signatures) : (f.register m).function.cache = [] := by
  simp [register, h]

end

/-! ## Lookup -/

section

variable [Descriptor T]

def applicable (f : GenericFunction T β) (concrete : Signature T) : List (List (Signature T)) :=
  (Chain.layersFor f.methods concrete).map (·.map (·.signature))

def effective (f : GenericFunction T β) (concrete : Signature T) : Chain T β :=
  Chain.effective f.name f.methods concrete

def resolution (f : GenericFunction T β) (concrete : Signature T) : Happening T :=
  match Chain.layersFor f.methods concrete with
  | [] => .noneApplicable
  | layers => .resolved layers.flatten.length layers.length (f.effective concrete).outline

variable [DecidableEq T]

def cached? (f : GenericFunction T β) (concrete : Signature T) : Option (Chain T β) :=
  f.cache.lookup concrete

/-- Finds the chain for the runtime types of a call: in the cache, or else by building it, which
the cache remembers if it is in use. -/
def lookup (f : GenericFunction T β) (concrete : Signature T) : Step T β (Chain T β) :=
  let origin := ⟨f.name, concrete⟩
  let stats := { f.stats with invocations := f.stats.invocations + 1 }
  if f.config.cache.enabled then
    match f.cached? concrete with
    | some chain =>
      { answer := chain
        event := ⟨origin, .cacheHit⟩
        function := { f with stats := { stats with cacheHits := stats.cacheHits + 1 } } }
    | none =>
      { answer := f.effective concrete
        event := ⟨origin, f.resolution concrete⟩
        function :=
          { f with
            cache := f.cache ++ [(concrete, f.effective concrete)]
            stats := { stats with resolutions := stats.resolutions + 1 } } }
  else
    { answer := f.effective concrete
      event := ⟨origin, f.resolution concrete⟩
      function := { f with stats := { stats with resolutions := stats.resolutions + 1 } } }

theorem methods_lookup (f : GenericFunction T β) (concrete : Signature T) :
    (f.lookup concrete).function.methods = f.methods := by
  unfold lookup
  split
  · split <;> rfl
  · rfl

theorem answer_lookup_of_cached {f : GenericFunction T β} {concrete : Signature T}
    {chain : Chain T β} (hc : f.config.cache.enabled = true) (h : f.cached? concrete = some chain) :
    (f.lookup concrete).answer = chain := by
  simp [lookup, hc, h]

theorem answer_lookup_of_not_cached {f : GenericFunction T β} {concrete : Signature T}
    (h : f.config.cache.enabled = false ∨ f.cached? concrete = none) :
    (f.lookup concrete).answer = f.effective concrete := by
  unfold lookup
  rcases h with h | h
  · simp [h]
  · split <;> simp [h]

end

end GenericFunction

end Multimethod
