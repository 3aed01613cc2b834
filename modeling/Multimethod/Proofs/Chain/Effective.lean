import Multimethod.Chain
import Multimethod.Proofs.Specificity.Layers

/-! # The chain of a call, by its most specific methods -/

namespace Multimethod

variable {T : Type} {β : Kind → Type} [Descriptor T]

def Method.implies (a b : Method T β) : Bool := a.signature.implies b.signature

theorem Method.implies_transitive [LawfulDescriptor T] :
    Specificity.Transitive (Method.implies : Method T β → Method T β → Bool) :=
  fun _ _ _ => Signature.implies_trans

namespace Chain

/-- The methods of a list that no other method of it strictly implies. -/
def mostSpecific (methods : List (Method T β)) : List (Method T β) :=
  methods.filter fun m => methods.all fun other => !other.signature.strictlyImplies m.signature

def beneath (m : Method T β) (methods : List (Method T β)) : List (Method T β) :=
  methods.filter fun other => m.signature.strictlyImplies other.signature

theorem mostSpecific_eq_nil_iff [LawfulDescriptor T] (methods : List (Method T β)) :
    mostSpecific methods = [] ↔ methods = [] :=
  Specificity.filter_topmost_eq_nil_iff Method.implies_transitive methods

/-! ## Methods that all apply -/

def ofMethods (origin : Origin T) (methods : List (Method T β)) : Chain T β :=
  ofLayers origin (Specificity.layers Method.implies methods)

theorem ofMethods_nil (origin : Origin T) :
    ofMethods origin ([] : List (Method T β)) = .stop .exhausted origin := by
  rw [ofMethods, Specificity.layers_nil]
  rfl

variable [LawfulDescriptor T]

theorem ofMethods_of_single (origin : Origin T) {methods : List (Method T β)} {m : Method T β}
    (h : mostSpecific methods = [m]) :
    ofMethods origin methods = bind m (ofMethods origin (beneath m methods)) := by
  rw [ofMethods, Specificity.layers_of_single Method.implies_transitive h]
  rfl

theorem ofMethods_of_tie (origin : Origin T) {methods : List (Method T β)}
    (h : 2 ≤ (mostSpecific methods).length) :
    ofMethods origin methods =
      .stop (.ambiguous ((mostSpecific methods).map (·.signature))) origin := by
  have hne : methods ≠ [] := by
    rintro rfl
    simp [mostSpecific] at h
  rw [ofMethods, Specificity.layers_eq_cons Method.implies_transitive hne]
  change ofLayers origin (mostSpecific methods :: _) = _
  match hbest : mostSpecific methods with
  | [] | [_] => simp [hbest] at h
  | _ :: _ :: _ => rfl

/-- Induction along a chain, from its first method down to its end. -/
theorem descend {motive : List (Method T β) → Prop} (nil : motive [])
    (single : ∀ methods m, mostSpecific methods = [m] → motive (beneath m methods) → motive methods)
    (tie : ∀ methods, 2 ≤ (mostSpecific methods).length → motive methods)
    (methods : List (Method T β)) : motive methods :=
  Specificity.descend Method.implies_transitive nil single tie methods

/-! ## All methods of a function -/

omit [LawfulDescriptor T] in
theorem effective_eq_ofMethods {operation : String} {methods : List (Method T β)}
    {concrete : Signature T} (h : applicable methods concrete ≠ []) :
    effective operation methods concrete =
      ofMethods ⟨operation, concrete⟩ (applicable methods concrete) :=
  effective_of_applicable h

theorem effective_of_single {operation : String} {methods : List (Method T β)}
    {concrete : Signature T} {m : Method T β} (h : mostSpecific (applicable methods concrete) = [m]) :
    effective operation methods concrete =
      bind m (ofMethods ⟨operation, concrete⟩ (beneath m (applicable methods concrete))) := by
  have hne : applicable methods concrete ≠ [] := by
    intro hnil
    simp [hnil, mostSpecific] at h
  rw [effective_eq_ofMethods hne, ofMethods_of_single _ h]

theorem effective_of_tie {operation : String} {methods : List (Method T β)}
    {concrete : Signature T} (h : 2 ≤ (mostSpecific (applicable methods concrete)).length) :
    effective operation methods concrete =
      .stop (.ambiguous ((mostSpecific (applicable methods concrete)).map (·.signature)))
        ⟨operation, concrete⟩ := by
  have hne : applicable methods concrete ≠ [] := by
    intro hnil
    simp [hnil, mostSpecific] at h
  rw [effective_eq_ofMethods hne, ofMethods_of_tie _ h]

end Chain

end Multimethod
