import Multimethod.Function
import Multimethod.Proofs.Specificity.Images

/-! # Other bodies for the same methods -/

namespace Multimethod

variable {T : Type} {β γ : Kind → Type}

/-! ## Methods and chains -/

def Method.withBody (φ : (m : Method T β) → γ m.kind) (m : Method T β) : Method T γ :=
  ⟨m.signature, m.kind, φ m⟩

namespace Chain

variable (φ : (m : Method T β) → γ m.kind)

def withBodies : Chain T β → Chain T γ
  | leaf signature body => .leaf signature (φ ⟨signature, .leaf, body⟩)
  | inner signature body next => .inner signature (φ ⟨signature, .inner, body⟩) next.withBodies
  | stop cause origin => .stop cause origin

theorem outline_withBodies (chain : Chain T β) : (chain.withBodies φ).outline = chain.outline := by
  induction chain with
  | leaf | stop => rfl
  | inner signature body next ih => exact congrArg (Chain.inner signature ()) ih

theorem bind_withBody (m : Method T β) (next : Chain T β) :
    Chain.bind (m.withBody φ) (next.withBodies φ) = (Chain.bind m next).withBodies φ := by
  obtain ⟨signature, _ | _, body⟩ := m <;> rfl

theorem ofLayers_withBody (origin : Origin T) (layers : List (List (Method T β))) :
    Chain.ofLayers origin (layers.map (·.map (·.withBody φ))) =
      (Chain.ofLayers origin layers).withBodies φ := by
  induction layers with
  | nil => rfl
  | cons layer rest ih =>
    match layer with
    | [] => rfl
    | [m] =>
      rw [List.map_cons, List.map_singleton, Chain.ofLayers, ih, bind_withBody]
      rfl
    | a :: b :: tied =>
      simp only [List.map_cons, Chain.ofLayers, Chain.withBodies, List.map_map]
      rfl

variable [Descriptor T]

theorem layersFor_withBody (methods : List (Method T β)) (concrete : Signature T) :
    layersFor (methods.map (·.withBody φ)) concrete =
      (layersFor methods concrete).map (·.map (·.withBody φ)) := by
  rw [layersFor, layersFor, applicable, applicable, List.filter_map]
  exact Specificity.layers_map (fun _ _ => rfl) _

theorem effective_withBody (operation : String) (methods : List (Method T β))
    (concrete : Signature T) :
    effective operation (methods.map (·.withBody φ)) concrete =
      (effective operation methods concrete).withBodies φ := by
  rw [effective, effective, layersFor_withBody]
  cases layersFor methods concrete with
  | nil => rfl
  | cons layer rest => exact ofLayers_withBody φ ⟨operation, concrete⟩ (layer :: rest)

end Chain

/-! ## Functions -/

variable (φ : (m : Method T β) → γ m.kind)

def GenericFunction.withBodies (g : GenericFunction T β) : GenericFunction T γ where
  name := g.name
  arity := g.arity
  config := g.config
  methods := g.methods.map (·.withBody φ)
  cache := g.cache.map (Prod.map id (·.withBodies φ))
  stats := g.stats

def Step.withBodies {α δ : Type} (answer : α → δ) (step : Step T β α) : Step T γ δ :=
  ⟨answer step.answer, step.event, step.function.withBodies φ⟩

namespace GenericFunction

theorem signatures_withBodies (g : GenericFunction T β) :
    (g.withBodies φ).signatures = g.signatures := List.map_map

theorem effective_withBodies [Descriptor T] (g : GenericFunction T β) (concrete : Signature T) :
    (g.withBodies φ).effective concrete = (g.effective concrete).withBodies φ :=
  Chain.effective_withBody φ g.name g.methods concrete

theorem resolution_withBodies [Descriptor T] (g : GenericFunction T β) (concrete : Signature T) :
    (g.withBodies φ).resolution concrete = g.resolution concrete := by
  have hlayers : Chain.layersFor (g.withBodies φ).methods concrete = _ :=
    Chain.layersFor_withBody φ g.methods concrete
  rw [resolution, resolution, hlayers, effective_withBodies, Chain.outline_withBodies]
  cases Chain.layersFor g.methods concrete with
  | nil => rfl
  | cons layer rest =>
    have hflatten := Specificity.length_flatten_map (e := Method.withBody φ) (layer :: rest)
    simp only [List.map_cons] at hflatten ⊢
    rw [hflatten, List.length_cons, List.length_map]
    rfl

variable [DecidableEq T]

theorem register_withBody (g : GenericFunction T β) (m : Method T β) :
    (g.withBodies φ).register (m.withBody φ) = (g.register m).withBodies φ id := by
  have hsignature : (m.withBody φ).signature = m.signature := rfl
  rw [register, register, signatures_withBodies, hsignature]
  split
  · rfl
  · simp only [Step.withBodies, withBodies, List.map_append, List.length_map]
    rfl

theorem cached?_withBodies (g : GenericFunction T β) (concrete : Signature T) :
    (g.withBodies φ).cached? concrete = (g.cached? concrete).map (·.withBodies φ) := by
  rw [cached?, cached?, withBodies]
  induction g.cache with
  | nil => rfl
  | cons entry rest ih =>
    rw [List.map_cons, List.lookup_cons, List.lookup_cons, ih]
    simp only [Prod.map_fst, Prod.map_snd, id_eq]
    split <;> rfl

theorem lookup_withBodies [Descriptor T] (g : GenericFunction T β) (concrete : Signature T) :
    (g.withBodies φ).lookup concrete = (g.lookup concrete).withBodies φ (·.withBodies φ) := by
  have hconfig : (g.withBodies φ).config = g.config := rfl
  rw [lookup, lookup, hconfig, cached?_withBodies, effective_withBodies, resolution_withBodies]
  split
  · cases g.cached? concrete with
    | some chain => rfl
    | none =>
      simp only [Option.map_none, Step.withBodies, withBodies, List.map_append]
      rfl
  · rfl

end GenericFunction

end Multimethod
