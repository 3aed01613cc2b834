import Multimethod.Proofs.Chain.Ends
import Multimethod.Proofs.Hierarchy.Signatures

/-! # Ties between declared types -/

namespace Multimethod.GenericFunction

variable {β : Kind → Type} {f : GenericFunction Tag β} {r : Realm} {concrete : Signature Tag}
  {layer : List (Signature Tag)}

theorem not_implies_of_mem_applicable (hr : r.Sound) (hf : ∀ p ∈ f.signatures, r.Covers p)
    (h : layer ∈ f.applicable concrete) :
    ∀ p ∈ layer, ∀ q ∈ layer, p ≠ q → ¬ p.implies q = true := by
  intro p hp q hq hne hpq
  have hsub := (sublist_of_mem_applicable h).subset
  exact not_strictlyImplies_of_mem_applicable h p hp q hq
    (hr.strictlyImplies_of_ne (hf p (hsub hp)) (hf q (hsub hq)) hpq hne)

/-- Implication is a partial order on the signatures of declared types, so of two signatures in one
layer neither implies the other. -/
theorem ties_are_incomparable (h : r.Reachable) (hf : ∀ p ∈ f.signatures, r.Covers p) :
    ((∀ p, r.Covers p → p.implies p = true) ∧
      (∀ p q k, r.Covers p → r.Covers q → r.Covers k → p.implies q = true → q.implies k = true →
        p.implies k = true) ∧
      ∀ p q, r.Covers p → r.Covers q → p.implies q = true → q.implies p = true → p = q) ∧
    (∀ concrete, ∀ layer ∈ f.applicable concrete,
      (∀ p ∈ layer, ∀ q ∈ layer, p ≠ q → ¬ p.implies q = true) ∧
      (f.signatures.Nodup → layer.Nodup)) ∧
    ∀ concrete candidates origin,
      .stop (.ambiguous candidates) origin ∈ (f.effective concrete).links →
        candidates ∈ f.applicable concrete ∧ 2 ≤ candidates.length := by
  have hsound := h.sound
  refine ⟨⟨fun p => hsound.implies_refl, fun p q k => hsound.implies_trans,
    fun p q => hsound.eq_of_implies⟩, fun concrete layer hlayer => ⟨?_, ?_⟩, fun _ _ _ => ?_⟩
  · exact not_implies_of_mem_applicable hsound hf hlayer
  · exact fun hdistinct => hdistinct.sublist (sublist_of_mem_applicable hlayer)
  · exact mem_applicable_of_tie_mem_links

theorem ties_are_incomparable_namesakes :
    let left : Signature Tag := ⟨[Namesakes.left, Namesakes.object]⟩
    let right : Signature Tag := ⟨[Namesakes.object, Namesakes.right]⟩
    let both : Signature Tag := ⟨[Namesakes.both, Namesakes.both]⟩
    let f := Namesakes.function
    Namesakes.realm.Reachable ∧ (∀ p ∈ f.signatures, Namesakes.realm.Covers p) ∧
    f.applicable both = [[left, right], [⟨[Namesakes.object, Namesakes.object]⟩]] ∧
    ¬ left.implies right = true ∧
    f.effective both = .stop (.ambiguous [left, right]) ⟨"f", both⟩ ∧
    [left, right] ∈ f.applicable both := by
  intro left right both f
  have hties := ties_are_incomparable Namesakes.follows.reachable Namesakes.covers_function
  have hlayers : f.applicable both = [[left, right], [⟨[Namesakes.object, Namesakes.object]⟩]] := by
    decide +kernel
  have hchain : f.effective both = .stop (.ambiguous [left, right]) ⟨"f", both⟩ := by
    with_unfolding_all rfl
  refine ⟨Namesakes.follows.reachable, Namesakes.covers_function, hlayers, ?_, hchain, ?_⟩
  · have hlayer : [left, right] ∈ f.applicable both := by simp [hlayers]
    exact (hties.2.1 both _ hlayer).1 left (by simp) right (by simp) (by decide)
  · have hlink : .stop (.ambiguous [left, right]) ⟨"f", both⟩ ∈ (f.effective both).links := by
      rw [hchain]
      exact List.mem_singleton_self _
    exact (hties.2.2 both _ _ hlink).1

end Multimethod.GenericFunction
