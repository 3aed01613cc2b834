import Mathlib.Data.List.Basic
import Multimethod.Chain
import Multimethod.Proofs.Specificity.Images

/-! # Other types in the place of the types -/

namespace Multimethod

variable {T U : Type} {β : Kind → Type}

/-- No two types become one, and what a type accepts stays the same. -/
structure Embeds [Descriptor T] [Descriptor U] (e : T → U) : Prop where
  injective : Function.Injective e
  accepts : ∀ a b, Descriptor.accepts (e a) (e b) = Descriptor.accepts a b

def Signature.map (e : T → U) (s : Signature T) : Signature U := ⟨s.types.map e⟩

def Method.map (e : T → U) (m : Method T β) : Method U β := ⟨m.signature.map e, m.kind, m.body⟩

def Cause.map (e : T → U) : Cause T → Cause U
  | missing => .missing
  | ambiguous candidates => .ambiguous (candidates.map (·.map e))
  | exhausted => .exhausted

def Origin.map (e : T → U) (o : Origin T) : Origin U := ⟨o.operation, o.signature.map e⟩

def Chain.map (e : T → U) : Chain T β → Chain U β
  | leaf signature body => .leaf (signature.map e) body
  | inner signature body next => .inner (signature.map e) body (next.map e)
  | stop cause origin => .stop (cause.map e) (origin.map e)

variable {e : T → U}

theorem Signature.map_injective (h : Function.Injective e) : Function.Injective (Signature.map e) := by
  intro s t heq
  obtain ⟨ps⟩ := s
  obtain ⟨qs⟩ := t
  have htypes : ps.map e = qs.map e := congrArg Signature.types heq
  rw [List.map_injective_iff.2 h htypes]

theorem Signature.toString_map [ToString T] [ToString U] (h : ∀ t, toString (e t) = toString t)
    (s : Signature T) : toString (s.map e) = toString s := by
  have htypes : (s.types.map e).map toString = s.types.map toString := by
    rw [List.map_map]
    exact List.map_congr_left fun t _ => h t
  exact congrArg Text.parenthesised htypes

theorem Chain.outline_map (c : Chain T β) : (c.map e).outline = c.outline.map e := by
  induction c with
  | leaf | stop => rfl
  | inner signature body next ih => exact congrArg (Chain.inner (signature.map e) ()) ih

theorem Chain.text_map [ToString T] [ToString U] (h : ∀ t, toString (e t) = toString t)
    (c : Chain T β) : (c.map e).text = c.text := by
  induction c with
  | leaf signature body => rw [Chain.map, text, text, Signature.toString_map h]
  | inner signature body next ih => rw [Chain.map, text, text, Signature.toString_map h, ih]
  | stop cause origin =>
    cases cause with
    | missing | exhausted => rfl
    | ambiguous candidates =>
      rw [Chain.map, Cause.map, text, text, List.map_map]
      exact congrArg (fun texts => "Ambiguous" ++ Text.bracketed texts)
        (List.map_congr_left fun s _ => Signature.toString_map h s)

theorem Chain.bind_map (m : Method T β) (next : Chain T β) :
    Chain.bind (m.map e) (next.map e) = (Chain.bind m next).map e := by
  obtain ⟨signature, _ | _, body⟩ := m <;> rfl

theorem Chain.ofLayers_map (origin : Origin T) (layers : List (List (Method T β))) :
    Chain.ofLayers (origin.map e) (layers.map (·.map (·.map e))) =
      (Chain.ofLayers origin layers).map e := by
  induction layers with
  | nil => rfl
  | cons layer rest ih =>
    match layer with
    | [] => rfl
    | [m] =>
      rw [List.map_cons, List.map_singleton, Chain.ofLayers, ih, bind_map]
      rfl
    | a :: b :: tied =>
      simp only [List.map_cons, Chain.ofLayers, Chain.map, Cause.map, List.map_map]
      rfl

namespace Embeds

variable [Descriptor T] [Descriptor U] (he : Embeds e)

include he

theorem acceptsTypes_map (declared concrete : List T) :
    Signature.acceptsTypes (declared.map e) (concrete.map e) =
      Signature.acceptsTypes declared concrete := by
  induction declared generalizing concrete with
  | nil => cases concrete <;> rfl
  | cons t rest ih =>
    cases concrete with
    | nil => rfl
    | cons u others =>
      rw [List.map_cons, List.map_cons, Signature.acceptsTypes, Signature.acceptsTypes, he.accepts, ih]

theorem accepts_map (declared concrete : Signature T) :
    (declared.map e).accepts (concrete.map e) = declared.accepts concrete :=
  he.acceptsTypes_map declared.types concrete.types

theorem implies_map (a b : Signature T) : (a.map e).implies (b.map e) = a.implies b :=
  he.accepts_map b a

theorem strictlyImplies_map (a b : Signature T) :
    (a.map e).strictlyImplies (b.map e) = a.strictlyImplies b := by
  rw [Signature.strictlyImplies, Signature.strictlyImplies, he.implies_map, he.implies_map]

theorem applicable_map (methods : List (Method T β)) (concrete : Signature T) :
    Chain.applicable (methods.map (·.map e)) (concrete.map e) =
      (Chain.applicable methods concrete).map (·.map e) := by
  rw [Chain.applicable, Chain.applicable, List.filter_map]
  congr 1
  exact List.filter_congr fun m _ => he.accepts_map m.signature concrete

theorem layersFor_map (methods : List (Method T β)) (concrete : Signature T) :
    Chain.layersFor (methods.map (·.map e)) (concrete.map e) =
      (Chain.layersFor methods concrete).map (·.map (·.map e)) := by
  rw [Chain.layersFor, he.applicable_map]
  exact Specificity.layers_map (fun a b => he.implies_map a.signature b.signature) _

theorem effective_map (operation : String) (methods : List (Method T β)) (concrete : Signature T) :
    Chain.effective operation (methods.map (·.map e)) (concrete.map e) =
      (Chain.effective operation methods concrete).map e := by
  rw [Chain.effective, Chain.effective, he.layersFor_map]
  cases Chain.layersFor methods concrete with
  | nil => rfl
  | cons layer rest => exact Chain.ofLayers_map ⟨operation, concrete⟩ (layer :: rest)

end Embeds

end Multimethod
