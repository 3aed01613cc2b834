import Multimethod.Method
import Multimethod.Proofs.Hierarchy.Roots

/-! # Hierarchies keep to themselves -/

namespace Multimethod.Realm

variable {r r' : Realm} {i j : Nat} {g : Hierarchy} {s t root : Tag} {past : List (Nat × Tag)}

/-! ## Who is below whom -/

theorem Follows.exists_hierarchy (h : r.Follows past) (hs : (i, s) ∈ past) :
    ∃ g, r.hierarchy? i = some g ∧ s ∈ g.types := by
  have hlt : i < r.hierarchies.length := h.holds.within _ hs
  have hi : r.hierarchy? i = some r.hierarchies[i] := List.getElem?_eq_getElem hlt
  refine ⟨_, hi, ?_⟩
  rw [h.holds.types i _ hi]
  exact mem_declaredBy.2 hs

theorem Follows.mem_tags (h : r.Follows past) (hs : (i, s) ∈ past) : s ∈ r.tags := by
  obtain ⟨g, hi, hmem⟩ := h.exists_hierarchy hs
  exact mem_tags_iff.2 ⟨i, g, hi, hmem⟩

theorem Follows.eq_of_isSubtypeOf (h : r.Follows past) (hs : (i, s) ∈ past) (ht : (j, t) ∈ past)
    (hst : s.isSubtypeOf t = true) : i = j := by
  obtain ⟨g, hi, hmem⟩ := h.exists_hierarchy hs
  have htypes : t ∈ g.types :=
    h.reachable.mem_types_of_isSubtypeOf (List.mem_of_getElem? hi) hmem (h.mem_tags ht) hst
  rw [h.holds.types i g hi] at htypes
  exact (h.eq_of_serial_eq (mem_declaredBy.1 htypes) ht rfl).1

theorem Follows.not_accepts (h : r.Follows past) {p q : Signature Tag} {n : Nat}
    (hs : p.types[n]? = some s) (ht : q.types[n]? = some t) (his : (i, s) ∈ past)
    (hjt : (j, t) ∈ past) (hne : i ≠ j) : p.accepts q = false := by
  rw [← Bool.not_eq_true]
  intro haccepts
  exact hne (h.eq_of_isSubtypeOf hjt his (Signature.accepts_getElem? haccepts hs ht)).symm

/-! ## Roots -/

theorem Reachable.root_isSubtypeOf_iff (h : r.Reachable) (hg : g ∈ r.hierarchies)
    (hroot : g.root = some root) (ht : t ∈ r.tags) : root.isSubtypeOf t = true ↔ t = root := by
  have hmem : root ∈ g.types := h.sound.rooted g hg root hroot
  have htags : root ∈ r.tags := List.mem_flatMap.2 ⟨g, hg, hmem⟩
  constructor
  · intro habove
    have hbelow : t.isSubtypeOf root = true :=
      (h.formed g hg).topped root hroot t (h.mem_types_of_isSubtypeOf hg hmem ht habove)
    exact h.sound.eq_of_isSubtypeOf ht htags hbelow habove
  · rintro rfl
    exact t.isSubtypeOf_refl

inductive Onward (r : Realm) : Realm → Prop where
  | here : Onward r r
  | create {r' : Realm} (h : Onward r r') (root : Option String) : Onward r (r'.create root)
  | declare {r' : Realm} (h : Onward r r') (i : Nat) (name : String) (supers : List Tag) :
    Onward r (r'.declare i name supers)

theorem hierarchy?_create (hi : r.hierarchy? i = some g) (root : Option String) :
    (r.create root).hierarchy? i = some g := by
  have hlt := (List.getElem?_eq_some_iff.1 hi).1
  cases root <;> exact (List.getElem?_append_left hlt).trans hi

theorem root_declare (hi : r.hierarchy? i = some g) (j : Nat) (name : String) (supers : List Tag) :
    ∃ g', (r.declare j name supers).hierarchy? i = some g' ∧ g'.root = g.root := by
  rcases r.declare_cases j name supers with hsame | ⟨tag, hdefine⟩
  · rw [hsame]
    exact ⟨g, hi, rfl⟩
  · obtain ⟨h, hj, -, -, -, hr'⟩ := define_eq_ok_iff.1 hdefine
    rw [hr']
    by_cases hij : j = i
    · subst hij
      obtain rfl : h = g := Option.some.inj (hj.symm.trans hi)
      exact ⟨_, List.getElem?_set_self (List.getElem?_eq_some_iff.1 hi).1, rfl⟩
    · exact ⟨g, (List.getElem?_set_ne hij).trans hi, rfl⟩

theorem Onward.exists_root_eq (h : r.Onward r') (hi : r.hierarchy? i = some g) :
    ∃ g', r'.hierarchy? i = some g' ∧ g'.root = g.root := by
  induction h with
  | here => exact ⟨g, hi, rfl⟩
  | create _ root ih =>
    obtain ⟨g', hg', hroot⟩ := ih
    exact ⟨g', hierarchy?_create hg' root, hroot⟩
  | declare _ j name supers ih =>
    obtain ⟨g', hg', hroot⟩ := ih
    obtain ⟨g'', hg'', hroot'⟩ := root_declare hg' j name supers
    exact ⟨g'', hg'', hroot'.trans hroot⟩

/-- Of two types that are related, one hierarchy declared both. A hierarchy made with a root has it
ever after, above all of its types. -/
theorem hierarchies_are_isolated {β : Kind → Type} {V : Type} (h : r.Follows past) :
    (∀ i s j t, (i, s) ∈ past → (j, t) ∈ past → s.isSubtypeOf t = true → i = j) ∧
    (∀ (m : Method Tag β) (arguments : List (Tagged V)) (n i j : Nat) s a,
      m.signature.types[n]? = some s → arguments[n]? = some a → (i, s) ∈ past → (j, a.tag) ∈ past →
      i ≠ j → m.signature.accepts (Signature.of arguments) = false) ∧
    ∀ (r₀ : Realm) name, (r₀.create (some name)).Onward r →
      let i := r₀.hierarchies.length
      ∃ g root, r.hierarchy? i = some g ∧ g.root = some root ∧ root.name = name ∧ (i, root) ∈ past ∧
        (∀ t, (i, t) ∈ past → t.isSubtypeOf root = true) ∧
        ∀ j t, (j, t) ∈ past → (root.isSubtypeOf t = true ↔ t = root) := by
  refine ⟨fun i s j t => h.eq_of_isSubtypeOf, fun m arguments n i j s a hs ha => ?_,
    fun r₀ name honward => ?_⟩
  · refine h.not_accepts hs (t := a.tag) ?_
    simp [Signature.of, ha, Typed.typeOf]
  · intro i
    have hcreated : (r₀.create (some name)).hierarchy? i = some (Hierarchy.rooted r₀.next name) :=
      List.getElem?_concat_length
    obtain ⟨g, hi, hroot⟩ := honward.exists_root_eq hcreated
    have hg : g ∈ r.hierarchies := List.mem_of_getElem? hi
    -- The types of the hierarchy are those that it declared, its root the first of them.
    have htypes : ∀ t, (i, t) ∈ past ↔ t ∈ g.types := fun t => by
      rw [h.holds.types i g hi, mem_declaredBy]
    refine ⟨g, Tag.ofSupertypes r₀.next name [], hi, hroot, rfl, ?_, fun t ht => ?_, fun j t ht => ?_⟩
    · exact (htypes _).2 (h.reachable.sound.rooted g hg _ hroot)
    · exact (h.reachable.formed g hg).topped _ hroot t ((htypes t).1 ht)
    · exact h.reachable.root_isSubtypeOf_iff hg hroot (h.mem_tags ht)

theorem hierarchies_are_isolated_namesakes :
    let m : Method Tag fun _ => Unit := ⟨⟨[Namesakes.object, Namesakes.left]⟩, .leaf, ()⟩
    let arguments : List (Tagged Nat) := [⟨Namesakes.both, 0⟩, ⟨Namesakes.strangerLeft, 0⟩]
    Namesakes.realm.Follows Namesakes.past ∧
    m.signature.accepts (Signature.of arguments) = false ∧
    (∀ t, (0, t) ∈ Namesakes.past → t.isSubtypeOf Namesakes.object = true) ∧
    ∀ j t, (j, t) ∈ Namesakes.past →
      (Namesakes.object.isSubtypeOf t = true ↔ t = Namesakes.object) := by
  intro m arguments
  have honward : (create { next := 1 } (some "Object")).Onward Namesakes.realm :=
    ((((Onward.here.create (some "Object")).declare 0 "Left" []).declare 1 "Left" []).declare
      0 "Right" []).declare 0 "Both" [Namesakes.left, Namesakes.right, Namesakes.left]
  obtain ⟨-, hmethod, hroot⟩ :=
    hierarchies_are_isolated (β := fun _ => Unit) (V := Nat) Namesakes.follows
  obtain ⟨g, root, hi, hg, -, -, hbelow, habove⟩ := hroot _ _ honward
  obtain rfl : _ = g := Option.some.inj hi
  obtain rfl : _ = root := Option.some.inj hg
  refine ⟨Namesakes.follows, ?_, hbelow, habove⟩
  exact hmethod m arguments 1 0 1 Namesakes.left ⟨Namesakes.strangerLeft, 0⟩ rfl rfl (by decide)
    (by decide) (by decide)

end Multimethod.Realm
