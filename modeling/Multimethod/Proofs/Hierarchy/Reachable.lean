import Multimethod.Hierarchy.Realm
import Multimethod.Signature

/-! # Realms that a program comes to -/

namespace Multimethod

namespace Tag

theorem mem_above_ofSupertypes {serial n : Nat} {name : String} {supers : List Tag} :
    n ∈ (ofSupertypes serial name supers).above ↔ ∃ s ∈ supers, n = s.serial ∨ n ∈ s.above := by
  simp [ofSupertypes, List.mem_flatMap]

theorem isSubtypeOf_iff {a b : Tag} :
    a.isSubtypeOf b = true ↔ a.serial = b.serial ∨ b.serial ∈ a.above := by
  simp [isSubtypeOf]

end Tag

namespace Hierarchy

variable {h h' : Hierarchy} {serial : Nat} {name : String} {supers : List Tag} {tag : Tag}

theorem mem_types_of_owns (howns : h.owns tag = true) : tag ∈ h.types :=
  List.mem_of_find?_eq_some (of_decide_eq_true howns)

theorem mem_types_of_mem_supertypesOf (hroot : ∀ root ∈ h.root, root ∈ h.types)
    (howns : ∀ s ∈ supers, h.owns s = true) {s : Tag} (hs : s ∈ h.supertypesOf supers) :
    s ∈ h.types := by
  unfold supertypesOf at hs
  split at hs
  · exact hroot s (by simpa using hs)
  · exact mem_types_of_owns (howns s hs)

theorem define_eq_ok_iff :
    h.define serial name supers = .ok (tag, h') ↔
      h.lookup name = none ∧ (∀ s ∈ supers, h.owns s = true) ∧
      tag = Tag.ofSupertypes serial name (h.supertypesOf supers) ∧
      h' = { h with types := h.types ++ [tag] } := by
  unfold define
  cases hlookup : h.lookup name with
  | some t => simp
  | none =>
    cases hforeign : supers.find? fun s => !h.owns s with
    | some s =>
      have hs : h.owns s = false := by simpa using List.find?_some hforeign
      have hmem := List.mem_of_find?_eq_some hforeign
      simp only [Option.isSome_none, Bool.false_eq_true, if_false, reduceCtorEq, false_iff]
      rintro ⟨-, howns, -⟩
      simp [howns s hmem] at hs
    | none =>
      have howns : ∀ s ∈ supers, h.owns s = true := by
        simpa using List.find?_eq_none.1 hforeign
      simp only [Option.isSome_none, Bool.false_eq_true, if_false, Except.ok.injEq, Prod.mk.injEq,
        true_and]
      constructor
      · rintro ⟨rfl, rfl⟩
        exact ⟨howns, rfl, rfl⟩
      · rintro ⟨-, rfl, rfl⟩
        exact ⟨rfl, rfl⟩

end Hierarchy

namespace Realm

variable {r : Realm} {i : Nat} {name : String} {supers : List Tag} {t : Tag}

/-! ## The types of a realm -/

def tags (r : Realm) : List Tag := r.hierarchies.flatMap (·.types)

theorem mem_tags_iff : t ∈ r.tags ↔ ∃ i h, r.hierarchy? i = some h ∧ t ∈ h.types := by
  rw [tags, List.mem_flatMap]
  constructor
  · rintro ⟨h, hmem, ht⟩
    obtain ⟨i, hi⟩ := List.mem_iff_getElem?.1 hmem
    exact ⟨i, h, hi, ht⟩
  · rintro ⟨i, h, hi, ht⟩
    exact ⟨h, List.mem_of_getElem? hi, ht⟩

theorem tags_create_none (r : Realm) : (r.create none).tags = r.tags := by
  simp [create, tags]

theorem mem_tags_create_some :
    t ∈ (r.create (some name)).tags ↔ t ∈ r.tags ∨ t = Tag.ofSupertypes r.next name [] := by
  simp [create, tags, Hierarchy.rooted]

/-! ## Declarations -/

theorem define_eq_ok_iff {tag : Tag} {r' : Realm} :
    r.define i name supers = some (.ok (tag, r')) ↔
      ∃ h, r.hierarchy? i = some h ∧ h.lookup name = none ∧ (∀ s ∈ supers, h.owns s = true) ∧
        tag = Tag.ofSupertypes r.next name (h.supertypesOf supers) ∧
        r' = { next := r.next + 1
               hierarchies := r.hierarchies.set i { h with types := h.types ++ [tag] } } := by
  unfold define
  cases hi : r.hierarchy? i with
  | none => simp
  | some h =>
    rcases hdefine : h.define r.next name supers with e | ⟨tag', h'⟩
    · simp only [Option.map_some, hdefine, Option.some.injEq, reduceCtorEq, false_iff]
      rintro ⟨_, rfl, hnew, howns, -⟩
      simp [Hierarchy.define_eq_ok_iff.2 ⟨hnew, howns, rfl, rfl⟩] at hdefine
    · obtain ⟨hnew, howns, rfl, rfl⟩ := Hierarchy.define_eq_ok_iff.1 hdefine
      simp only [Option.map_some, hdefine, Option.some.injEq, Except.ok.injEq, Prod.mk.injEq]
      constructor
      · rintro ⟨rfl, rfl⟩
        exact ⟨h, rfl, hnew, howns, rfl, rfl⟩
      · rintro ⟨_, rfl, -, -, rfl, rfl⟩
        exact ⟨rfl, rfl⟩

def declare (r : Realm) (i : Nat) (name : String) (supers : List Tag) : Realm :=
  match r.define i name supers with
  | some (.ok (_, r')) => r'
  | _ => r

theorem declare_cases (r : Realm) (i : Nat) (name : String) (supers : List Tag) :
    r.declare i name supers = r ∨
    ∃ tag, r.define i name supers = some (.ok (tag, r.declare i name supers)) := by
  unfold declare
  split
  · next hdefine => exact Or.inr ⟨_, hdefine⟩
  · exact Or.inl rfl

theorem mem_tags_set {h h' : Hierarchy} {tag : Tag} (hi : r.hierarchy? i = some h)
    (hh' : ∀ t, t ∈ h'.types ↔ t ∈ h.types ∨ t = tag) {n : Nat} :
    t ∈ tags { next := n, hierarchies := r.hierarchies.set i h' } ↔ t ∈ r.tags ∨ t = tag := by
  have hlt : i < r.hierarchies.length := (List.getElem?_eq_some_iff.1 hi).1
  have hself : (r.hierarchies.set i h')[i]? = some h' := List.getElem?_set_self hlt
  have hother : ∀ j, i ≠ j → (r.hierarchies.set i h')[j]? = r.hierarchies[j]? := fun j hij =>
    List.getElem?_set_ne hij
  rw [mem_tags_iff, mem_tags_iff]
  simp only [hierarchy?] at hi ⊢
  constructor
  · rintro ⟨j, g, hg, ht⟩
    by_cases hij : i = j
    · subst hij
      obtain rfl : h' = g := by simpa [hself] using hg
      exact ((hh' t).1 ht).imp_left fun ht => ⟨i, h, hi, ht⟩
    · exact Or.inl ⟨j, g, hother j hij ▸ hg, ht⟩
  · rintro (⟨j, g, hg, ht⟩ | rfl)
    · by_cases hij : i = j
      · subst hij
        obtain rfl : h = g := by simpa [hi] using hg
        exact ⟨i, h', hself, (hh' t).2 (Or.inl ht)⟩
      · exact ⟨j, g, (hother j hij).trans hg, ht⟩
    · exact ⟨i, h', hself, (hh' t).2 (Or.inr rfl)⟩

/-- The realms that a program comes to, whatever the first serial number is. -/
inductive Reachable : Realm → Prop where
  | start (next : Nat) : Reachable { next }
  | create {r : Realm} (h : Reachable r) (root : Option String) : Reachable (r.create root)
  | declare {r : Realm} (h : Reachable r) (i : Nat) (name : String) (supers : List Tag) :
    Reachable (r.declare i name supers)

/-! ## What a realm keeps -/

/-- Every type has a serial number of its own and stands below types that were there before it. -/
structure Sound (r : Realm) : Prop where
  fresh : ∀ t ∈ r.tags, t.serial < r.next
  distinct : ∀ a ∈ r.tags, ∀ b ∈ r.tags, a.serial = b.serial → a = b
  derived : ∀ t ∈ r.tags, ∃ supers : List Tag, (∀ s ∈ supers, s ∈ r.tags ∧ s.serial < t.serial) ∧
    t = Tag.ofSupertypes t.serial t.name supers
  rooted : ∀ h ∈ r.hierarchies, ∀ root ∈ h.root, root ∈ h.types

structure Grows (r r' : Realm) (name : String) (supers : List Tag) : Prop where
  next : r'.next = r.next + 1
  mem_tags : ∀ t, t ∈ r'.tags ↔ t ∈ r.tags ∨ t = Tag.ofSupertypes r.next name supers
  old : ∀ s ∈ supers, s ∈ r.tags

theorem Sound.of_grows {r' : Realm} (hsound : r.Sound) (hgrows : r.Grows r' name supers)
    (hrooted : ∀ h ∈ r'.hierarchies, ∀ root ∈ h.root, root ∈ h.types) : r'.Sound where
  fresh := by
    intro t ht
    rw [hgrows.next]
    rcases (hgrows.mem_tags t).1 ht with ht | rfl
    · exact Nat.lt_succ_of_lt (hsound.fresh t ht)
    · exact Nat.lt_succ_self r.next
  distinct := by
    intro a ha b hb hab
    rcases (hgrows.mem_tags a).1 ha with ha | rfl
    · rcases (hgrows.mem_tags b).1 hb with hb | rfl
      · exact hsound.distinct a ha b hb hab
      · exact absurd hab (Nat.ne_of_lt (hsound.fresh a ha))
    · rcases (hgrows.mem_tags b).1 hb with hb | rfl
      · exact absurd hab.symm (Nat.ne_of_lt (hsound.fresh b hb))
      · rfl
  derived := by
    intro t ht
    rcases (hgrows.mem_tags t).1 ht with ht | rfl
    · obtain ⟨supers, hsupers, htag⟩ := hsound.derived t ht
      exact ⟨supers, fun s hs => ⟨(hgrows.mem_tags s).2 (Or.inl (hsupers s hs).1),
        (hsupers s hs).2⟩, htag⟩
    · exact ⟨supers, fun s hs => ⟨(hgrows.mem_tags s).2 (Or.inl (hgrows.old s hs)),
        hsound.fresh s (hgrows.old s hs)⟩, rfl⟩
  rooted := hrooted

theorem Sound.create (hsound : r.Sound) (root : Option String) : (r.create root).Sound := by
  cases root with
  | none =>
    refine ⟨?_, ?_, ?_, ?_⟩
    · exact tags_create_none r ▸ hsound.fresh
    · exact tags_create_none r ▸ hsound.distinct
    · exact tags_create_none r ▸ hsound.derived
    · refine List.forall_mem_append.2 ⟨hsound.rooted, List.forall_mem_singleton.2 ?_⟩
      simp
  | some name =>
    refine hsound.of_grows ⟨rfl, fun t => mem_tags_create_some, List.forall_mem_nil _⟩ ?_
    refine List.forall_mem_append.2 ⟨hsound.rooted, List.forall_mem_singleton.2 ?_⟩
    simp [Hierarchy.rooted]

theorem grows_of_define {tag : Tag} {r' : Realm} (hsound : r.Sound)
    (h : r.define i name supers = some (.ok (tag, r'))) :
    ∃ above, r.Grows r' name above := by
  obtain ⟨g, hi, -, howns, rfl, rfl⟩ := define_eq_ok_iff.1 h
  refine ⟨g.supertypesOf supers, rfl, fun t => mem_tags_set hi (by simp), fun s hs => ?_⟩
  have hroot := hsound.rooted g (List.mem_of_getElem? hi)
  exact mem_tags_iff.2 ⟨i, g, hi, Hierarchy.mem_types_of_mem_supertypesOf hroot howns hs⟩

theorem Sound.define (hsound : r.Sound) {tag : Tag} {r' : Realm}
    (h : r.define i name supers = some (.ok (tag, r'))) : r'.Sound := by
  obtain ⟨_, hgrows⟩ := grows_of_define hsound h
  refine hsound.of_grows hgrows fun g hg root hroot => ?_
  obtain ⟨g₀, hi, -, -, rfl, rfl⟩ := define_eq_ok_iff.1 h
  rcases List.mem_or_eq_of_mem_set hg with hother | rfl
  · exact hsound.rooted g hother root hroot
  · exact List.mem_append_left _ (hsound.rooted g₀ (List.mem_of_getElem? hi) root hroot)

theorem Reachable.sound (h : r.Reachable) : r.Sound := by
  induction h with
  | start next => exact ⟨by simp [tags], by simp [tags], by simp [tags], by simp⟩
  | create h root ih => exact ih.create root
  | @declare r h i name supers ih =>
    rcases r.declare_cases i name supers with hsame | ⟨tag, hdefine⟩
    · rwa [hsame]
    · exact ih.define hdefine

/-! ## Signatures of declared types -/

theorem Sound.eq_of_serials_eq (hsound : r.Sound) {ps qs : List Tag} (hps : ∀ t ∈ ps, t ∈ r.tags)
    (hqs : ∀ t ∈ qs, t ∈ r.tags) (h : ps.map (·.serial) = qs.map (·.serial)) : ps = qs := by
  induction ps generalizing qs with
  | nil => exact (List.map_eq_nil_iff.1 h.symm).symm
  | cons p ps ih =>
    cases qs with
    | nil => cases h
    | cons q qs =>
      obtain ⟨hp, hps⟩ := List.forall_mem_cons.1 hps
      obtain ⟨hq, hqs⟩ := List.forall_mem_cons.1 hqs
      obtain ⟨hserial, hserials⟩ := List.cons.inj h
      rw [hsound.distinct p hp q hq hserial, ih hps hqs hserials]

theorem Sound.signature_eq_iff (hsound : r.Sound) {p q : Signature Tag}
    (hp : ∀ t ∈ p.types, t ∈ r.tags) (hq : ∀ t ∈ q.types, t ∈ r.tags) :
    p = q ↔ p.types.map (·.serial) = q.types.map (·.serial) := by
  constructor
  · rintro rfl
    rfl
  · intro h
    obtain ⟨ps⟩ := p
    obtain ⟨qs⟩ := q
    exact congrArg Signature.mk (hsound.eq_of_serials_eq hp hq h)

end Realm

end Multimethod
