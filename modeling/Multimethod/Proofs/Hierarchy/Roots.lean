import Multimethod.Proofs.Hierarchy.Signatures

/-! # What stands below a root -/

namespace Multimethod

namespace Signature

variable {T : Type}

def uniform (n : Nat) (t : T) : Signature T := ⟨List.replicate n t⟩

variable [Descriptor T] {declared actual : List T} {root : T}

theorem acceptsTypes_replicate (h : ∀ t ∈ actual, Descriptor.accepts root t = true) :
    acceptsTypes (List.replicate actual.length root) actual = true := by
  induction actual with
  | nil => rfl
  | cons t rest ih =>
    obtain ⟨ht, hrest⟩ := List.forall_mem_cons.1 h
    rw [List.length_cons, List.replicate_succ, acceptsTypes, ht, ih hrest]
    rfl

theorem accepts_getElem? {n : Nat} {p t : T} (h : acceptsTypes declared actual = true)
    (hp : declared[n]? = some p) (ht : actual[n]? = some t) : Descriptor.accepts p t = true := by
  induction declared generalizing actual n with
  | nil => simp at hp
  | cons q rest ih =>
    cases actual with
    | nil => simp at ht
    | cons u others =>
      rw [acceptsTypes, Bool.and_eq_true] at h
      cases n with
      | zero =>
        obtain rfl : q = p := by simpa using hp
        obtain rfl : u = t := by simpa using ht
        exact h.1
      | succ n => exact ih h.2 (by simpa using hp) (by simpa using ht)

theorem exists_of_acceptsTypes (h : acceptsTypes declared actual = true) :
    ∀ p ∈ declared, ∃ t ∈ actual, Descriptor.accepts p t = true := by
  intro p hp
  obtain ⟨n, hlt, rfl⟩ := List.getElem_of_mem hp
  have hlt' : n < actual.length := length_eq_of_acceptsTypes h ▸ hlt
  exact ⟨actual[n], List.getElem_mem hlt',
    accepts_getElem? h (List.getElem?_eq_getElem hlt) (List.getElem?_eq_getElem hlt')⟩

end Signature

namespace Realm

variable {r : Realm} {g : Hierarchy} {a b root : Tag} {p concrete : Signature Tag}

theorem Reachable.mem_types_of_isSubtypeOf (h : r.Reachable) (hg : g ∈ r.hierarchies)
    (ha : a ∈ g.types) (hb : b ∈ r.tags) (hab : a.isSubtypeOf b = true) : b ∈ g.types := by
  have htags : ∀ t ∈ g.types, t ∈ r.tags := fun t ht => List.mem_flatMap.2 ⟨g, hg, ht⟩
  rcases Tag.isSubtypeOf_iff.1 hab with hserial | habove
  · rwa [← h.sound.distinct a (htags a ha) b hb hserial]
  · obtain ⟨s, hs, hserial⟩ := (h.formed g hg).closed a ha b.serial habove
    rwa [← h.sound.distinct s (htags s hs) b hb hserial]

theorem Reachable.accepts_roots (h : r.Reachable) (hg : g ∈ r.hierarchies) (hroot : g.root = some root)
    (hconcrete : ∀ t ∈ concrete.types, t ∈ g.types) :
    (Signature.uniform concrete.arity root).accepts concrete = true :=
  Signature.acceptsTypes_replicate fun t ht =>
    (h.formed g hg).topped root hroot t (hconcrete t ht)

theorem Reachable.implies_roots (h : r.Reachable) (hg : g ∈ r.hierarchies) (hroot : g.root = some root)
    (hconcrete : ∀ t ∈ concrete.types, t ∈ g.types) (hp : r.Covers p)
    (haccepts : p.accepts concrete = true) :
    p.implies (Signature.uniform concrete.arity root) = true := by
  -- A type that accepts one of this hierarchy is of this hierarchy too.
  have htypes : ∀ t ∈ p.types, t ∈ g.types := by
    intro t ht
    obtain ⟨u, hu, htu⟩ := Signature.exists_of_acceptsTypes haccepts t ht
    exact h.mem_types_of_isSubtypeOf hg (hconcrete u hu) (hp t ht) htu
  rw [show concrete.arity = p.arity from (Signature.length_eq_of_acceptsTypes haccepts).symm]
  exact h.accepts_roots hg hroot htypes

end Realm

end Multimethod
