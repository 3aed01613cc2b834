import Multimethod.Proofs.Function.Embedding
import Multimethod.Proofs.Hierarchy.Renaming

/-!
# Programs that read tags

What a program reads holds tags, and with them the serial numbers that happened to be next. Other programs
of the process draw theirs from the same supply.
-/

namespace Multimethod

variable {β : Kind → Type}

/-! ## Programs -/

structure Mention where
  hierarchy : Nat
  name : String

inductive Comparison where
  | accepts
  | implies
  | strictlyImplies
  | equal
deriving DecidableEq

def Comparison.holds : Comparison → Signature Tag → Signature Tag → Bool
  | accepts, a, b => a.accepts b
  | implies, a, b => a.implies b
  | strictlyImplies, a, b => a.strictlyImplies b
  | equal, a, b => a = b

/-- Signatures of different arity have no order: they can only be told apart. -/
def Comparison.verdict? (comparison : Comparison) (a b : Signature Tag) : Option Bool :=
  if comparison = equal ∨ a.arity = b.arity then some (comparison.holds a b) else none

/-- What a program can do with hierarchies, types, signatures and functions, short of a call. -/
inductive Instruction (β : Kind → Type) where
  | createHierarchy (root : Option String)
  | define (hierarchy : Nat) (name : String) (supers : List Mention)
  | lookup (type : Mention)
  | isSubtypeOf (a b : Mention)
  | compare (comparison : Comparison) (a b : List Mention)
  | createFunction (name : String) (arity : Nat) (config : Config)
  | register (f : Nat) (types : List Mention) (kind : Kind) (body : β kind)
  | applicable (f : Nat) (types : List Mention)
  | effective (f : Nat) (types : List Mention)
  | stats (f : Nat)

/-- What an instruction gives: nothing, if what it mentions is not there or does not fit. -/
inductive Reading (β : Kind → Type) where
  | nothing
  | type (found : Option Tag)
  | defined (result : Except DefinitionError Tag)
  | verdict (holds : Bool)
  | function (display : String)
  | registered (result : Except (RegistrationError Tag) Unit) (event : Event Tag)
  | layers (signatures : List (List (Signature Tag)))
  | effective (chain : Chain Tag β) (event : Event Tag)
  | stats (counters : Stats)

structure Process (β : Kind → Type) where
  realm : Realm := {}
  functions : List (GenericFunction Tag β) := []

namespace Process

def tag? (p : Process β) (mention : Mention) : Option Tag :=
  (p.realm.hierarchy? mention.hierarchy).bind (·.lookup mention.name)

def tags? (p : Process β) (mentions : List Mention) : Option (List Tag) := mentions.mapM p.tag?

def signature? (p : Process β) (types : List Mention) : Option (Signature Tag) :=
  (p.tags? types).map Signature.mk

def use (p : Process β) (f : Nat) (types : List Mention)
    (step : GenericFunction Tag β → Signature Tag → Reading β × GenericFunction Tag β) :
    Reading β × Process β :=
  match p.functions[f]?, p.signature? types with
  | some g, some signature =>
    if g.arity = signature.arity then
      let (reading, g') := step g signature
      (reading, { p with functions := p.functions.set f g' })
    else (.nothing, p)
  | _, _ => (.nothing, p)

def execute (p : Process β) : Instruction β → Reading β × Process β
  | .createHierarchy root =>
    let realm := p.realm.create root
    (.type (realm.hierarchies.getLast?.bind (·.root)), { p with realm })
  | .define i name supers =>
    match (p.tags? supers).bind (p.realm.define i name) with
    | none => (.nothing, p)
    | some (.error error) => (.defined (.error error), p)
    | some (.ok (tag, realm)) => (.defined (.ok tag), { p with realm })
  | .lookup type => (.type (p.tag? type), p)
  | .isSubtypeOf a b =>
    match p.tag? a, p.tag? b with
    | some a, some b => (.verdict (a.isSubtypeOf b), p)
    | _, _ => (.nothing, p)
  | .compare comparison a b =>
    match p.signature? a, p.signature? b with
    | some a, some b => ((comparison.verdict? a b).elim .nothing .verdict, p)
    | _, _ => (.nothing, p)
  | .createFunction name arity config =>
    let g : GenericFunction Tag β := { name, arity, config }
    (.function g.display, { p with functions := p.functions ++ [g] })
  | .register f types kind body =>
    p.use f types fun g signature =>
      let step := g.register ⟨signature, kind, body⟩
      (.registered step.answer step.event, step.function)
  | .applicable f types =>
    p.use f types fun g signature => (.layers (g.applicable signature), g)
  | .effective f types =>
    p.use f types fun g signature =>
      let step := g.lookup signature
      (.effective step.answer step.event, step.function)
  | .stats f =>
    match p.functions[f]? with
    | none => (.nothing, p)
    | some g => (.stats g.stats, p)

def executeAll : Process β → List (Instruction β) → List (Reading β) × Process β
  | p, [] => ([], p)
  | p, instruction :: rest =>
    let (reading, p') := p.execute instruction
    let (readings, p'') := p'.executeAll rest
    (reading :: readings, p'')

def start (next : Nat) : Process β := { realm := { next } }

def counting (p : Process β) (next : Nat) : Process β := { p with realm := p.realm.counting next }

/-- What a program reads among other programs. Its own instructions are those on the left, and the others
share nothing with it but the supply of serial numbers. -/
def share : Process β → Process β → List (Instruction β ⊕ Instruction β) → List (Reading β)
  | _, _, [] => []
  | own, others, .inl instruction :: rest =>
    let (reading, own') := own.execute instruction
    reading :: own'.share (others.counting own'.realm.next) rest
  | own, others, .inr instruction :: rest =>
    let others' := (others.execute instruction).2
    (own.counting others'.realm.next).share others' rest

end Process

/-! ## Readings with other serial numbers -/

namespace Reading

def rename (σ : Nat → Nat) : Reading β → Reading β
  | nothing => .nothing
  | type found => .type (found.map (·.rename σ))
  | defined result => .defined (result.map (·.rename σ))
  | verdict holds => .verdict holds
  | function display => .function display
  | registered result event =>
    .registered (result.mapError (·.map (Tag.rename σ))) (event.map (Tag.rename σ))
  | layers signatures => .layers (signatures.map (·.map (·.map (Tag.rename σ))))
  | effective chain event => .effective (chain.map (Tag.rename σ)) (event.map (Tag.rename σ))
  | stats counters => .stats counters

def texts : Reading β → List String
  | nothing => []
  | type found => found.toList.map toString
  | defined (.ok tag) => [toString tag]
  | defined (.error error) => [error.message]
  | verdict holds => [toString holds]
  | function display => [display]
  | registered (.ok _) event => [event.text]
  | registered (.error error) event => [error.message, event.text]
  | layers signatures => signatures.map fun layer => Text.bracketed (layer.map toString)
  | effective chain event => [chain.text, event.text]
  | stats counters => [counters.hitRateText]

/-- The same readings apart from the serial numbers, which are those of the first under `σ` and those of
the second under `τ`. -/
def Correspond (σ τ : Nat → Nat) (first second : List (Reading β)) : Prop :=
  ∃ readings : List (Reading β), first = readings.map (·.rename σ) ∧
    second = readings.map (·.rename τ) ∧ first.map texts = second.map texts

end Reading

end Multimethod
