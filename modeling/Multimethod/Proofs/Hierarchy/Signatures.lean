import Multimethod.Function
import Multimethod.Proofs.Chain.Embedding
import Multimethod.Proofs.Hierarchy.Closure
import Multimethod.Proofs.Hierarchy.Declarations
import Multimethod.Proofs.Specificity.Frontier

/-! # Signatures of declared types -/

namespace Multimethod

theorem Signature.eq_of_acceptsTypes {T : Type} [Descriptor T]
    (h : ∀ a b : T, Descriptor.accepts a b = true → Descriptor.accepts b a = true → a = b)
    {ps qs : List T} (hpq : acceptsTypes ps qs = true) (hqp : acceptsTypes qs ps = true) :
    ps = qs := by
  induction ps generalizing qs with
  | nil => exact (List.length_eq_zero_iff.1 (length_eq_of_acceptsTypes hqp)).symm
  | cons p ps ih =>
    cases qs with
    | nil => cases hpq
    | cons q qs =>
      simp only [acceptsTypes, Bool.and_eq_true] at hpq hqp
      rw [h p q hpq.1 hqp.1, ih hpq.2 hqp.2]

namespace Realm

variable {r : Realm} {p q k : Signature Tag}

/-! ## Declared types as a descriptor -/

abbrev Declared (r : Realm) : Type := { t : Tag // t ∈ r.tags }

instance (r : Realm) : Descriptor r.Declared where
  accepts declared actual := actual.1.isSubtypeOf declared.1

theorem embeds_declared (r : Realm) : Embeds (Subtype.val : r.Declared → Tag) where
  injective := Subtype.val_injective
  accepts _ _ := rfl

theorem Sound.isSubtypeOf_trans (hsound : r.Sound) {a b c : Tag} (ha : a ∈ r.tags) (hb : b ∈ r.tags)
    (hc : c ∈ r.tags) (hab : a.isSubtypeOf b = true) (hbc : b.isSubtypeOf c = true) :
    a.isSubtypeOf c = true := by
  rw [hsound.isSubtypeOf_iff_reflTransGen ha hb] at hab
  rw [hsound.isSubtypeOf_iff_reflTransGen hb hc] at hbc
  exact (hsound.isSubtypeOf_iff_reflTransGen ha hc).2 (hab.trans hbc)

theorem Sound.lawful (hsound : r.Sound) : LawfulDescriptor r.Declared where
  accepts_refl a := a.1.isSubtypeOf_refl
  accepts_trans {a b c} hab hbc := hsound.isSubtypeOf_trans c.2 b.2 a.2 hbc hab

/-! ## The order of signatures -/

/-- The types of the signature are declared, in hierarchies of this realm. -/
def Covers (r : Realm) (s : Signature Tag) : Prop := ∀ t ∈ s.types, t ∈ r.tags

theorem Covers.exists_map (hp : r.Covers p) : ∃ s : Signature r.Declared, s.map (·.1) = p :=
  ⟨⟨p.types.attachWith (· ∈ r.tags) hp⟩, congrArg Signature.mk (List.attachWith_map_subtype_val hp)⟩

theorem Sound.implies_refl (hsound : r.Sound) (hp : r.Covers p) : p.implies p = true := by
  have := hsound.lawful
  obtain ⟨p, rfl⟩ := hp.exists_map
  rw [r.embeds_declared.implies_map]
  exact Signature.implies_refl p

theorem Sound.implies_trans (hsound : r.Sound) (hp : r.Covers p) (hq : r.Covers q)
    (hk : r.Covers k) (hpq : p.implies q = true) (hqk : q.implies k = true) :
    p.implies k = true := by
  have := hsound.lawful
  obtain ⟨p, rfl⟩ := hp.exists_map
  obtain ⟨q, rfl⟩ := hq.exists_map
  obtain ⟨k, rfl⟩ := hk.exists_map
  rw [r.embeds_declared.implies_map] at hpq hqk ⊢
  exact Signature.implies_trans hpq hqk

theorem Sound.eq_of_implies (hsound : r.Sound) (hp : r.Covers p) (hq : r.Covers q)
    (hpq : p.implies q = true) (hqp : q.implies p = true) : p = q := by
  obtain ⟨p, rfl⟩ := hp.exists_map
  obtain ⟨q, rfl⟩ := hq.exists_map
  rw [r.embeds_declared.implies_map] at hpq hqp
  have hanti : ∀ a b : r.Declared, Descriptor.accepts a b = true → Descriptor.accepts b a = true →
      a = b := fun a b hab hba => Subtype.ext (hsound.eq_of_isSubtypeOf a.2 b.2 hba hab)
  have htypes : p.types = q.types := Signature.eq_of_acceptsTypes hanti hqp hpq
  exact congrArg (fun types => Signature.map (·.1) ⟨types⟩) htypes

theorem Sound.strictlyImplies_of_ne (hsound : r.Sound) (hp : r.Covers p) (hq : r.Covers q)
    (hpq : p.implies q = true) (hne : p ≠ q) : p.strictlyImplies q = true :=
  Specificity.strictly_iff.2 ⟨hpq, fun hqp => hne (hsound.eq_of_implies hp hq hpq hqp)⟩

end Realm

/-! ## Namesakes -/

namespace Namesakes

def function : GenericFunction Tag fun _ => Unit where
  name := "f"
  arity := 2
  methods :=
    [⟨⟨[left, object]⟩, .leaf, ()⟩, ⟨⟨[strangerLeft, object]⟩, .leaf, ()⟩,
      ⟨⟨[object, object]⟩, .leaf, ()⟩, ⟨⟨[object, right]⟩, .inner, ()⟩]

theorem covers_function : ∀ p ∈ function.signatures, realm.Covers p := by
  unfold Realm.Covers
  decide +kernel

end Namesakes

end Multimethod
