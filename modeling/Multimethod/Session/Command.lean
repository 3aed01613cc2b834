import Multimethod.Session.Basic

/-! # The steps of a session -/

namespace Multimethod

inductive Command where
  | createHierarchy (id : String) (root : Option String)
  | define (hierarchy name : String) (supers : List String)
  | nameType (name type : String)
  | types (hierarchy : String)
  | lookup (hierarchy name : String)
  | supertypes (type : String)
  | compareTypes (a b : String)
  | compareSignatures (a b : List String)
  | signatureOf (arguments : List (String × Payload))
  | compareArguments (a b : String × Payload)
  | createFunction (id name : String) (arity : Nat) (document : Option String)
      (withoutCache : Bool)
  | add (f : String) (kind : Kind) (types : List String) (body : Script)
  | call (f : String) (arguments : List (String × Payload))
  | applicable (f : String) (types : List String)
  | stats (f : String)
  | inspect (f : String)
  | callMany (f : String) (callers rounds : Nat) (calls : List (List (String × Payload)))
  | addMany (f : String) (callers : Nat) (kind : Kind) (types : List String) (body : Script)

inductive Reply where
  | hierarchy (h : Hierarchy)
  | defined (tag : Tag) (size : Nat)
  | type (tag : Tag)
  | types (h : Hierarchy)
  | found (tag : Option Tag)
  | supertypes (tags : List TagRef)
  | twoTypes (a b : Tag)
  | twoSignatures (a b : Signature Tag)
  | signature (s : Signature Tag)
  | twoArguments (a b : Argument)
  | function (display : String)
  | added (kind : Kind) (size : Nat)
  | answer (text : String)
  | layers (signatures : List (List (Signature Tag)))
  | stats (f : GenericFunction Tag (Body Argument Tag Scope String))
  | inspected (f : GenericFunction Tag (Body Argument Tag Scope String))
  | answers (calls : Nat) (distinct : List String)
  | additions (accepted refused : Nat)

structure Outcome where
  reply : Session.Answer Reply
  log : Array String
  events : Array (Nat × Event Tag)

namespace Session

def looked (s : Session) (reply : Answer Reply) : Answer Reply × Session := (reply, s)

def changed {α : Type} (s : Session) (reply : α → Reply) :
    Answer (α × Session) → Answer Reply × Session
  | .ok (a, s) => (.ok (reply a), s)
  | .error e => (.error e, s)

/-- A step that may change the session even if it fails. -/
def went {α : Type} (reply : α → Reply) (outcome : Answer α × Session) : Answer Reply × Session :=
  (outcome.1.map reply, outcome.2)

def perform (s : Session) : Command → Answer Reply × Session
  | .createHierarchy id root =>
    let (h, s) := s.createHierarchy id root
    (.ok (.hierarchy h), s)
  | .define hierarchy name supers =>
    s.changed (fun (tag, size) => .defined tag size) (s.define hierarchy name supers)
  | .nameType name type => s.changed .type (s.nameType name type)
  | .types hierarchy => s.looked ((s.hierarchy hierarchy).map .types)
  | .lookup hierarchy name =>
    s.looked ((s.hierarchy hierarchy).map fun h => .found (h.lookup name))
  | .supertypes type => s.looked ((s.tag type).map fun t => .supertypes t.supertypes)
  | .compareTypes a b => s.looked do return .twoTypes (← s.tag a) (← s.tag b)
  | .compareSignatures a b => s.looked do
    let a ← s.tags a
    let b ← s.tags b
    if a.length = b.length then return .twoSignatures ⟨a⟩ ⟨b⟩ else throw .arityMismatch
  | .signatureOf arguments =>
    s.looked ((s.arguments arguments).map fun as => .signature (Signature.of as))
  | .compareArguments a b => s.looked do return .twoArguments (← s.argument a) (← s.argument b)
  | .createFunction id name arity document withoutCache =>
    s.changed .function (s.createFunction id name arity document withoutCache)
  | .add f kind types body => went (.added kind) (s.addMethod f kind types body)
  | .call f arguments => went .answer (s.call f arguments)
  | .applicable f types => s.looked ((s.applicable f types).map .layers)
  | .stats f => s.looked ((s.function f).map fun (_, g) => .stats g)
  | .inspect f => s.looked ((s.function f).map fun (_, g) => .inspected g)
  | .callMany f callers rounds calls =>
    went (fun (n, distinct) => .answers n distinct) (s.callMany f callers rounds calls)
  | .addMany f callers kind types body =>
    went (fun (accepted, refused) => .additions accepted refused)
      (s.addMany f callers kind types body)

/-- Performs a command and takes the records of the step out of the session. -/
def step (s : Session) (c : Command) : Outcome × Session :=
  let (reply, s) := s.perform c
  ({ reply, log := s.log, events := s.events }, { s with log := #[], events := #[] })

end Session

end Multimethod
