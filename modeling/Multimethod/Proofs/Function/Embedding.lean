import Multimethod.Function
import Multimethod.Proofs.Chain.Embedding

/-! # Functions over other types -/

namespace Multimethod

variable {T U : Type} {β : Kind → Type}

def Happening.map (e : T → U) : Happening T → Happening U
  | registered kind dropped => .registered kind dropped
  | rejected => .rejected
  | noneApplicable => .noneApplicable
  | resolved candidates layers chain => .resolved candidates layers (chain.map e)
  | cacheHit => .cacheHit

def Event.map (e : T → U) (event : Event T) : Event U :=
  ⟨event.origin.map e, event.happening.map e⟩

def RegistrationError.map (e : T → U) (error : RegistrationError T) : RegistrationError U :=
  ⟨error.operation, error.signature.map e⟩

def GenericFunction.map (e : T → U) (g : GenericFunction T β) : GenericFunction U β where
  name := g.name
  arity := g.arity
  config := g.config
  methods := g.methods.map (·.map e)
  cache := g.cache.map (Prod.map (·.map e) (·.map e))
  stats := g.stats

def Step.map {α γ : Type} (e : T → U) (a : α → γ) (step : Step T β α) : Step U β γ :=
  ⟨a step.answer, step.event.map e, step.function.map e⟩

variable {e : T → U}

/-! ## Texts -/

section

variable [ToString T] [ToString U] (h : ∀ t, toString (e t) = toString t)

include h

theorem RegistrationError.message_map (error : RegistrationError T) :
    (error.map e).message = error.message :=
  congrArg (fun text => "GenericFunction(" ++ error.operation ++ ") already has a method for " ++ text)
    (Signature.toString_map h error.signature)

theorem Event.text_map (event : Event T) : (event.map e).text = event.text := by
  obtain ⟨⟨operation, signature⟩, happening⟩ := event
  have hsignature := Signature.toString_map h signature
  cases happening with
  | resolved candidates layers chain =>
    simp only [Event.map, Origin.map, Happening.map, text]
    rw [hsignature, Chain.text_map h]
  | registered | rejected | noneApplicable | cacheHit =>
    simp only [Event.map, Origin.map, Happening.map, text]
    rw [hsignature]

end

/-! ## Steps -/

namespace GenericFunction

theorem signatures_map (g : GenericFunction T β) :
    (g.map e).signatures = g.signatures.map (·.map e) := by
  rw [signatures, signatures, List.map_map]
  exact List.map_map

section

variable (h : Function.Injective e)

include h

theorem mem_signatures_map {g : GenericFunction T β} {signature : Signature T} :
    signature.map e ∈ (g.map e).signatures ↔ signature ∈ g.signatures := by
  rw [signatures_map]
  exact List.mem_map_of_injective (Signature.map_injective h)

variable [DecidableEq T] [DecidableEq U]

theorem register_map (g : GenericFunction T β) (m : Method T β) :
    (g.map e).register (m.map e) = (g.register m).map e (·.mapError (·.map e)) := by
  have hiff : (m.map e).signature ∈ (g.map e).signatures ↔ m.signature ∈ g.signatures :=
    mem_signatures_map h
  by_cases hmem : m.signature ∈ g.signatures
  · rw [register, register, if_pos hmem, if_pos (hiff.2 hmem)]
    rfl
  · rw [register, register, if_neg hmem, if_neg (mt hiff.1 hmem)]
    simp only [Step.map, GenericFunction.map, List.map_append, List.length_map]
    rfl

theorem cached?_map (g : GenericFunction T β) (concrete : Signature T) :
    (g.map e).cached? (concrete.map e) = (g.cached? concrete).map (·.map e) := by
  rw [cached?, cached?, GenericFunction.map]
  induction g.cache with
  | nil => rfl
  | cons entry rest ih =>
    have hkey : (concrete.map e == entry.1.map e) = (concrete == entry.1) := by
      rw [Bool.eq_iff_iff, beq_iff_eq, beq_iff_eq, (Signature.map_injective h).eq_iff]
    rw [List.map_cons, List.lookup_cons, List.lookup_cons, Prod.map_fst, Prod.map_snd, hkey, ih]
    split <;> rfl

end

variable [Descriptor T] [Descriptor U] (he : Embeds e)

include he

theorem applicable_map (g : GenericFunction T β) (concrete : Signature T) :
    (g.map e).applicable (concrete.map e) = (g.applicable concrete).map (·.map (·.map e)) := by
  rw [applicable, applicable, GenericFunction.map, he.layersFor_map, List.map_map, List.map_map]
  refine List.map_congr_left fun layer _ => ?_
  rw [Function.comp_apply, Function.comp_apply, List.map_map, List.map_map]
  rfl

theorem effective_map (g : GenericFunction T β) (concrete : Signature T) :
    (g.map e).effective (concrete.map e) = (g.effective concrete).map e :=
  he.effective_map g.name g.methods concrete

theorem resolution_map (g : GenericFunction T β) (concrete : Signature T) :
    (g.map e).resolution (concrete.map e) = (g.resolution concrete).map e := by
  have hlayers : Chain.layersFor (g.map e).methods (concrete.map e) = _ :=
    he.layersFor_map g.methods concrete
  rw [resolution, resolution, hlayers, effective_map he, Chain.outline_map]
  cases Chain.layersFor g.methods concrete with
  | nil => rfl
  | cons layer rest =>
    have hflatten := Specificity.length_flatten_map (e := Method.map e) (layer :: rest)
    simp only [List.map_cons] at hflatten ⊢
    rw [hflatten, List.length_cons, List.length_map]
    rfl

variable [DecidableEq T] [DecidableEq U]

theorem lookup_map (g : GenericFunction T β) (concrete : Signature T) :
    (g.map e).lookup (concrete.map e) = (g.lookup concrete).map e (·.map e) := by
  have hconfig : (g.map e).config = g.config := rfl
  rw [lookup, lookup, hconfig, cached?_map he.injective, effective_map he, resolution_map he]
  split
  · cases g.cached? concrete with
    | some chain => rfl
    | none =>
      simp only [Option.map_none, Step.map, GenericFunction.map, List.map_append]
      rfl
  · rfl

end GenericFunction

end Multimethod
