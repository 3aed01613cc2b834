import Multimethod.Config.Read
import Multimethod.Session.Script
import Multimethod.Store

/-!
# Sessions

A step that fails leaves the session as it was, apart from what method bodies did before the failure.
-/

namespace Multimethod

abbrev Session := Store Argument Tag Scope String

inductive StepError where
  | unknownHierarchy
  | unknownType
  | unknownFunction
  | badArity
  | arityMismatch
  | definition (error : DefinitionError)
  | config (error : ConfigError)
  | registration (error : RegistrationError Tag)
  | dispatch (error : DispatchError Argument Tag)
  | tooDeep

namespace StepError

def ofRegistration : Fault (RegistrationError Tag) → StepError
  | .unknownFunction => .unknownFunction
  | .arityMismatch => .arityMismatch
  | .raised e => .registration e

def ofDispatch : Fault (DispatchError Argument Tag) → StepError
  | .unknownFunction => .unknownFunction
  | .arityMismatch => .arityMismatch
  | .raised e => .dispatch e

end StepError

namespace Session

def start : Session := { scope := {} }

def depthLimit : Nat := 1000000

def largestArity : Nat := 6

abbrev Answer (α : Type) := Except StepError α

/-! ## References -/

def orFail {α : Type} (error : StepError) (o : Option α) : Answer α := o.elim (.error error) .ok

def tag (s : Session) (ref : String) : Answer Tag := orFail .unknownType (s.scope.type? ref)

def tags (s : Session) (refs : List String) : Answer (List Tag) :=
  orFail .unknownType (s.scope.types? refs)

def argument (s : Session) (a : String × Payload) : Answer Argument :=
  (s.tag a.1).map fun tag => { tag, value := a.2 }

def arguments (s : Session) (as : List (String × Payload)) : Answer (List Argument) :=
  as.mapM s.argument

def handle (s : Session) (id : String) : Answer Nat :=
  orFail .unknownFunction (s.scope.function? id)

def hierarchy (s : Session) (id : String) : Answer Hierarchy :=
  orFail .unknownHierarchy (s.scope.hierarchy? id)

def function (s : Session) (id : String) :
    Answer (Nat × GenericFunction Tag (Body Argument Tag Scope String)) := do
  let f ← s.handle id
  let g ← orFail .unknownFunction s.functions[f]?
  return (f, g)

def functionWithTypes (s : Session) (id : String) (types : List String) :
    Answer (Nat × Signature Tag) := do
  let f ← s.handle id
  let tags ← s.tags types
  return (f, ⟨tags⟩)

/-! ## Hierarchies and types -/

def createHierarchy (s : Session) (id : String) (root : Option String) : Hierarchy × Session :=
  let realm := s.scope.realm.create root
  let i := s.scope.realm.hierarchies.length
  let scope := { s.scope with realm, hierarchies := (id, i) :: s.scope.hierarchies }
  ((realm.hierarchy? i).getD {}, { s with scope })

def define (s : Session) (id name : String) (supers : List String) :
    Answer ((Tag × Nat) × Session) := do
  let supers ← s.tags supers
  let i ← orFail .unknownHierarchy (s.scope.hierarchies.lookup id)
  let outcome ← orFail .unknownHierarchy (s.scope.realm.define i name supers)
  let (tag, realm) ← outcome.mapError .definition
  let size := (realm.hierarchy? i).elim 0 (·.size)
  return ((tag, size), { s with scope := { s.scope with realm } })

def nameType (s : Session) (name ref : String) : Answer (Tag × Session) := do
  let tag ← s.tag ref
  return (tag, { s with scope := { s.scope with aliases := (name, tag) :: s.scope.aliases } })

/-! ## Functions -/

/-- Reads the configuration before it looks at the arity. -/
def createFunction (s : Session) (id name : String) (arity : Nat) (document : Option String)
    (withoutCache : Bool) : Answer (String × Session) := do
  let config ← (document.elim (.ok {}) Config.ofToml).mapError StepError.config
  if largestArity < arity then throw .badArity
  let config := if withoutCache then config.withoutCache else config
  let g : GenericFunction Tag (Body Argument Tag Scope String) := { name, arity, config }
  let (f, s) := s.add g
  return (g.display, { s with scope := { s.scope with functions := (id, f) :: s.scope.functions } })

def addMethod (s : Session) (id : String) (kind : Kind) (types : List String) (script : Script) :
    Answer Nat × Session :=
  match s.functionWithTypes id types with
  | .error e => (.error e, s)
  | .ok (f, signature) =>
    let (answer, s) := s.register f ⟨signature, kind, script.body kind⟩
    match answer with
    | .error fault => (.error (.ofRegistration fault), s)
    | .ok _ => (.ok (s.size f), s)

def callHandle (s : Session) (f : Nat) (arguments : List Argument) : Answer String × Session :=
  match s.invoke depthLimit f arguments with
  | none => (.error .tooDeep, s)
  | some (answer, s) => (answer.mapError .ofDispatch, s)

def call (s : Session) (id : String) (arguments : List (String × Payload)) :
    Answer String × Session :=
  match (do return (← s.handle id, ← s.arguments arguments) : Answer (Nat × List Argument)) with
  | .error e => (.error e, s)
  | .ok (f, arguments) => s.callHandle f arguments

def applicable (s : Session) (id : String) (types : List String) :
    Answer (List (List (Signature Tag))) := do
  let (f, signature) ← s.functionWithTypes id types
  let g ← (s.find f signature.arity).mapError .ofRegistration
  return g.applicable signature

/-! ## Many callers -/

def summaryText : Answer String → String
  | .ok text => "ok: " ++ text
  | .error (.dispatch e) => "error: " ++ e.message
  | .error .arityMismatch => "error: ArityMismatch"
  | .error _ => "error: "

def distinct (texts : List String) : List String :=
  (texts.mergeSort fun a b => decide (a ≤ b)).eraseReps

/-- The calls of all callers, one caller after the other. Each goes round the list of calls,
starting one place further than the caller before. -/
def schedule {α : Type} (callers rounds : Nat) (calls : List α) : List α :=
  (List.range callers).flatMap fun t =>
    (List.range (rounds * calls.length)).filterMap fun i => calls[(t + i) % calls.length]?

def runCalls (s : Session) (f : Nat) (calls : List (List Argument)) : List String × Session :=
  calls.foldl (fun (texts, s) arguments =>
    let (answer, s) := s.callHandle f arguments
    (summaryText answer :: texts, s)) ([], s)

def callMany (s : Session) (id : String) (callers rounds : Nat)
    (calls : List (List (String × Payload))) : Answer (Nat × List String) × Session :=
  let prepared : Answer (Nat × List (List Argument)) := do
    let f ← s.handle id
    let calls ← calls.mapM s.arguments
    return (f, schedule callers rounds calls)
  match prepared with
  | .error e => (.error e, s)
  | .ok (f, calls) =>
    let (texts, s') := s.runCalls f calls
    (.ok (calls.length, distinct texts), { s' with events := s.events })

/-- Many attempts to add one method: the number of those that succeed and of the others. A method
that does not fit the function is refused each time. -/
def addMany (s : Session) (id : String) (callers : Nat) (kind : Kind) (types : List String)
    (script : Script) : Answer (Nat × Nat) × Session :=
  match s.functionWithTypes id types with
  | .error e => (.error e, s)
  | .ok (f, signature) =>
    let (successes, s') := (List.range callers).foldl (fun (n, s) _ =>
      let (answer, s) := s.register f ⟨signature, kind, script.body kind⟩
      (if answer.isOk then n + 1 else n, s)) (0, s)
    (.ok (successes, callers - successes), { s' with events := s.events })

end Session

end Multimethod
