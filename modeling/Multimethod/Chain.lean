import Multimethod.Method
import Multimethod.Specificity.Layers

/-! # Chains of methods -/

namespace Multimethod

/-- Why a chain stops without a method: `missing` at its start, `exhausted` behind an inner method. -/
inductive Cause (T : Type) where
  | missing
  | ambiguous (candidates : List (Signature T))
  | exhausted
deriving DecidableEq

/-- The function and the runtime types that a chain was built for. -/
structure Origin (T : Type) where
  operation : String
  signature : Signature T
deriving DecidableEq

inductive Chain (T : Type) (β : Kind → Type) where
  | leaf (signature : Signature T) (body : β .leaf)
  | inner (signature : Signature T) (body : β .inner) (next : Chain T β)
  | stop (cause : Cause T) (origin : Origin T)

abbrev Outline (T : Type) := Chain T fun _ => Unit

namespace Chain

variable {T : Type} {β : Kind → Type}

def outline : Chain T β → Outline T
  | leaf signature _ => .leaf signature ()
  | inner signature _ next => .inner signature () next.outline
  | stop cause origin => .stop cause origin

def text [ToString T] : Chain T β → String
  | leaf signature _ => "Leaf" ++ toString signature
  | inner signature _ next => "Inner" ++ toString signature ++ " -> " ++ next.text
  | stop .missing _ => "Missing"
  | stop (.ambiguous candidates) _ => "Ambiguous" ++ Text.bracketed (candidates.map toString)
  | stop .exhausted _ => "NoMoreMethods"

/-! ## From the methods of a function to a chain -/

/-- Puts a method in front of a chain. A leaf has no use for it. -/
def bind (m : Method T β) (next : Chain T β) : Chain T β :=
  match m with
  | ⟨signature, .leaf, body⟩ => .leaf signature body
  | ⟨signature, .inner, body⟩ => .inner signature body next

/-- A layer of one method is a link; the first layer of several ends the chain as a tie. -/
def ofLayers (origin : Origin T) : List (List (Method T β)) → Chain T β
  | [] => .stop .exhausted origin
  | [m] :: rest => bind m (ofLayers origin rest)
  | tied :: _ => .stop (.ambiguous (tied.map (·.signature))) origin

variable [Descriptor T]

def applicable (methods : List (Method T β)) (concrete : Signature T) : List (Method T β) :=
  methods.filter (·.signature.accepts concrete)

/-- The applicable methods in layers, the most specific first. -/
def layersFor (methods : List (Method T β)) (concrete : Signature T) :
    List (List (Method T β)) :=
  Specificity.layers (fun a b => a.signature.implies b.signature) (applicable methods concrete)

/-- The chain that a call of the function runs. -/
def effective (operation : String) (methods : List (Method T β)) (concrete : Signature T) :
    Chain T β :=
  match layersFor methods concrete with
  | [] => .stop .missing ⟨operation, concrete⟩
  | layers => ofLayers ⟨operation, concrete⟩ layers

theorem layersFor_eq_nil_iff (methods : List (Method T β)) (concrete : Signature T) :
    layersFor methods concrete = [] ↔ applicable methods concrete = [] :=
  Specificity.layers_eq_nil_iff _ _

theorem effective_of_no_applicable {operation : String} {methods : List (Method T β)}
    {concrete : Signature T} (h : applicable methods concrete = []) :
    effective operation methods concrete = .stop .missing ⟨operation, concrete⟩ := by
  rw [effective, (layersFor_eq_nil_iff methods concrete).2 h]

theorem effective_of_applicable {operation : String} {methods : List (Method T β)}
    {concrete : Signature T} (h : applicable methods concrete ≠ []) :
    effective operation methods concrete =
      ofLayers ⟨operation, concrete⟩ (layersFor methods concrete) := by
  have hne := mt (layersFor_eq_nil_iff methods concrete).1 h
  unfold effective
  split
  · contradiction
  · rfl

end Chain

end Multimethod
