import Multimethod.Proofs.Chain.Walk

/-! # More specific arguments -/

namespace Multimethod

variable {T : Type} {β : Kind → Type}

namespace Chain

def withConcrete (concrete : Signature T) : Chain T β → Chain T β
  | leaf signature body => .leaf signature body
  | inner signature body next => .inner signature body (next.withConcrete concrete)
  | stop cause origin => .stop cause { origin with signature := concrete }

theorem bind_withConcrete (concrete : Signature T) (m : Method T β) (next : Chain T β) :
    (bind m next).withConcrete concrete = bind m (next.withConcrete concrete) := by
  obtain ⟨signature, _ | _, body⟩ := m <;> rfl

theorem ofLayers_withConcrete (origin : Origin T) (concrete : Signature T)
    (layers : List (List (Method T β))) :
    (ofLayers origin layers).withConcrete concrete =
      ofLayers { origin with signature := concrete } layers := by
  induction layers with
  | nil => rfl
  | cons layer rest ih =>
    match layer with
    | [] | _ :: _ :: _ => rfl
    | [m] => rw [ofLayers, ofLayers, bind_withConcrete, ih]

variable [Descriptor T] {methods : List (Method T β)} {p q : Signature T}

theorem applicable_sublist_of_implies [LawfulDescriptor T] (h : p.implies q = true) :
    (applicable methods q).Sublist (applicable methods p) := by
  apply List.monotone_filter_right
  intro m hm
  exact Signature.implies_trans h hm

theorem effective_withConcrete (operation : String)
    (h : applicable methods p = applicable methods q) :
    effective operation methods p = (effective operation methods q).withConcrete p := by
  by_cases hnone : applicable methods q = []
  · rw [effective_of_no_applicable hnone, effective_of_no_applicable (h.trans hnone)]
    rfl
  · have hlayers : layersFor methods p = layersFor methods q := by rw [layersFor, layersFor, h]
    rw [effective_of_applicable hnone, effective_of_applicable (h ▸ hnone), ofLayers_withConcrete,
      hlayers]

end Chain

namespace GenericFunction

variable [Descriptor T]

/-- What applies to a call applies to every call on more specific types. If the same methods apply
to two calls, their chains differ in nothing but the types for which they stop. -/
theorem specialising_keeps_methods [LawfulDescriptor T] (f : GenericFunction T β)
    {p q : Signature T} :
    (p.implies q = true →
      (Chain.applicable f.methods q).Sublist (Chain.applicable f.methods p) ∧
      (Chain.applicable f.methods p).Sublist f.methods ∧
      ((∀ origin, f.effective q ≠ .stop .missing origin) →
        ∀ origin, f.effective p ≠ .stop .missing origin)) ∧
    (Chain.applicable f.methods p = Chain.applicable f.methods q →
      f.effective p = (f.effective q).withConcrete p) := by
  refine ⟨fun h => ⟨Chain.applicable_sublist_of_implies h, List.filter_sublist, fun hq origin hp => ?_⟩,
    Chain.effective_withConcrete f.name⟩
  have hnone : Chain.applicable f.methods p = [] :=
    (f.applicable_eq_nil_iff p).1 ((f.exists_missing_iff p).1 ⟨origin, hp⟩)
  have hsub : (Chain.applicable f.methods q).Sublist (Chain.applicable f.methods p) :=
    Chain.applicable_sublist_of_implies h
  rw [hnone, List.sublist_nil] at hsub
  exact hq _ (Chain.effective_of_no_applicable hsub)

theorem specialising_keeps_methods_tie :
    let leaf : Signature Diamond → Method Diamond fun _ => Unit := fun s => ⟨s, .leaf, ()⟩
    let f : GenericFunction Diamond fun _ => Unit :=
      { name := "f", arity := 2
        methods := [leaf ⟨[.right, .top]⟩, leaf ⟨[.left, .top]⟩, leaf ⟨[.top, .left]⟩] }
    let lefts : Signature Diamond := ⟨[.left, .left]⟩
    (Chain.applicable f.methods lefts).Sublist (Chain.applicable f.methods ⟨[.bottom, .left]⟩) ∧
    (Chain.applicable f.methods ⟨[.bottom, .left]⟩).length = 3 ∧
    f.effective lefts = .stop (.ambiguous [⟨[.left, .top]⟩, ⟨[.top, .left]⟩]) ⟨"f", lefts⟩ ∧
    f.effective ⟨[.left, .bottom]⟩ = (f.effective lefts).withConcrete ⟨[.left, .bottom]⟩ := by
  intro leaf f lefts
  have hspecial := (specialising_keeps_methods f (p := ⟨[.bottom, .left]⟩) (q := lefts)).1 (by decide)
  refine ⟨hspecial.1, by decide +kernel, by with_unfolding_all rfl, ?_⟩
  exact (specialising_keeps_methods f (q := lefts)).2 rfl

end GenericFunction

end Multimethod
