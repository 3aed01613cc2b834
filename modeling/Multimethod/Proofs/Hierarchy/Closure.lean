import Mathlib.Logic.ExistsUnique
import Mathlib.Logic.Relation
import Multimethod.Proofs.Hierarchy.Reachable

/-! # The subtype test is the closure of the declarations -/

namespace Multimethod.Realm

variable {r : Realm} {a b s : Tag}

def Extends (r : Realm) (a b : Tag) : Prop := b ∈ r.tags ∧ b.toTagRef ∈ a.supertypes

/-! ## One step up -/

theorem Sound.exists_supers (hsound : r.Sound) (ha : a ∈ r.tags) :
    ∃ supers : List Tag, (∀ s, r.Extends a s ↔ s ∈ supers) ∧
      (∀ s ∈ supers, s ∈ r.tags ∧ s.serial < a.serial) ∧
      a.supertypes = supers.map (·.toTagRef) ∧
      ∀ n, n ∈ a.above ↔ ∃ s ∈ supers, n = s.serial ∨ n ∈ s.above := by
  obtain ⟨supers, hsupers, htag⟩ := hsound.derived a ha
  have hlist : a.supertypes = supers.map (·.toTagRef) := by
    rw [htag]
    rfl
  have habove : ∀ n, n ∈ a.above ↔ ∃ s ∈ supers, n = s.serial ∨ n ∈ s.above := by
    rw [htag]
    exact fun n => Tag.mem_above_ofSupertypes
  refine ⟨supers, fun s => ⟨?_, fun hs => ?_⟩, hsupers, hlist, habove⟩
  · rintro ⟨hs, href⟩
    rw [hlist] at href
    obtain ⟨t, ht, hts⟩ := List.mem_map.1 href
    -- The list gives a number and a name, and the number tells which type it is.
    rwa [← hsound.distinct t (hsupers t ht).1 s hs (congrArg TagRef.serial hts)]
  · exact ⟨(hsupers s hs).1, hlist ▸ List.mem_map_of_mem hs⟩

theorem Sound.serial_lt_of_extends (hsound : r.Sound) (ha : a ∈ r.tags) (h : r.Extends a s) :
    s.serial < a.serial := by
  obtain ⟨supers, hextends, hsupers, -⟩ := hsound.exists_supers ha
  exact (hsupers s ((hextends s).1 h)).2

theorem Sound.isSubtypeOf_iff_step (hsound : r.Sound) (ha : a ∈ r.tags) (hb : b ∈ r.tags) :
    a.isSubtypeOf b = true ↔ a = b ∨ ∃ s, r.Extends a s ∧ s.isSubtypeOf b = true := by
  obtain ⟨supers, hextends, -, -, habove⟩ := hsound.exists_supers ha
  simp only [Tag.isSubtypeOf_iff, habove, hextends]
  constructor
  · rintro (hserial | ⟨s, hs, hsb⟩)
    · exact Or.inl (hsound.distinct a ha b hb hserial)
    · exact Or.inr ⟨s, hs, hsb.imp_left Eq.symm⟩
  · rintro (rfl | ⟨s, hs, hsb⟩)
    · exact Or.inl rfl
    · exact Or.inr ⟨s, hs, hsb.imp_left Eq.symm⟩

/-! ## Any number of steps -/

theorem Sound.isSubtypeOf_iff_reflTransGen (hsound : r.Sound) (ha : a ∈ r.tags) (hb : b ∈ r.tags) :
    a.isSubtypeOf b = true ↔ Relation.ReflTransGen r.Extends a b := by
  constructor
  · intro hab
    -- Every step leads to an older type, with a smaller number.
    induction hn : a.serial using Nat.strongRecOn generalizing a with
    | ind n ih =>
      subst hn
      rcases (hsound.isSubtypeOf_iff_step ha hb).1 hab with rfl | ⟨s, has, hsb⟩
      · exact .refl
      · exact .head has (ih s.serial (hsound.serial_lt_of_extends ha has) has.1 hsb rfl)
  · intro hpath
    induction hpath using Relation.ReflTransGen.head_induction_on with
    | refl => exact b.isSubtypeOf_refl
    | head hac _ ih => exact (hsound.isSubtypeOf_iff_step ha hb).2 (Or.inr ⟨_, hac, ih hac.1⟩)

theorem Sound.serial_le_of_isSubtypeOf (hsound : r.Sound) (ha : a ∈ r.tags) (hb : b ∈ r.tags)
    (hab : a.isSubtypeOf b = true) : b.serial ≤ a.serial := by
  have hpath := (hsound.isSubtypeOf_iff_reflTransGen ha hb).1 hab
  induction hpath using Relation.ReflTransGen.head_induction_on with
  | refl => exact Nat.le_refl _
  | head hac hcb ih =>
    have hc := (hsound.isSubtypeOf_iff_reflTransGen hac.1 hb).2 hcb
    exact Nat.le_trans (ih hac.1 hc) (Nat.le_of_lt (hsound.serial_lt_of_extends ha hac))

theorem Sound.eq_of_isSubtypeOf (hsound : r.Sound) (ha : a ∈ r.tags) (hb : b ∈ r.tags)
    (hab : a.isSubtypeOf b = true) (hba : b.isSubtypeOf a = true) : a = b :=
  hsound.distinct a ha b hb (Nat.le_antisymm (hsound.serial_le_of_isSubtypeOf hb ha hba)
    (hsound.serial_le_of_isSubtypeOf ha hb hab))

theorem Sound.existsUnique_extends (hsound : r.Sound) (ha : a ∈ r.tags) {ref : TagRef}
    (href : ref ∈ a.supertypes) : ∃! s, r.Extends a s ∧ s.toTagRef = ref := by
  obtain ⟨supers, hextends, hsupers, hlist, -⟩ := hsound.exists_supers ha
  obtain ⟨s, hs, rfl⟩ := List.mem_map.1 (hlist ▸ href)
  refine ⟨s, ⟨(hextends s).2 hs, rfl⟩, fun t ⟨ht, hts⟩ => ?_⟩
  exact hsound.distinct t ht.1 s (hsupers s hs).1 (congrArg TagRef.serial hts)

/-- A type is a subtype of what steps along the listed supertypes reach, and of nothing else; two
types that are subtypes of each other are one. -/
theorem isSubtypeOf_iff_reaches (h : r.Reachable) :
    (∀ i name supers tag r', r.define i name supers = some (.ok (tag, r')) →
      tag ∈ r'.tags ∧ ∃ g, r.hierarchy? i = some g ∧
        tag.supertypes = (if supers = [] then g.root.toList else supers).map (·.toTagRef)) ∧
    (∀ a ∈ r.tags, ∀ ref ∈ a.supertypes, ∃! s, r.Extends a s ∧ s.toTagRef = ref) ∧
    ∀ a ∈ r.tags, ∀ b ∈ r.tags,
      (a.isSubtypeOf b = true ↔ Relation.ReflTransGen r.Extends a b) ∧
      (a.isSubtypeOf b = true → b.isSubtypeOf a = true → a = b) ∧
      (a.serial = b.serial ↔ a = b) := by
  have hsound := h.sound
  refine ⟨fun i name supers tag r' hdefine => ?_, fun a ha ref => hsound.existsUnique_extends ha,
    fun a ha b hb => ⟨hsound.isSubtypeOf_iff_reflTransGen ha hb, hsound.eq_of_isSubtypeOf ha hb,
      ⟨hsound.distinct a ha b hb, fun hab => by rw [hab]⟩⟩⟩
  obtain ⟨g, hi, -, -, rfl, rfl⟩ := define_eq_ok_iff.1 hdefine
  refine ⟨(mem_tags_set hi (by simp)).2 (Or.inr rfl), g, hi, ?_⟩
  cases supers <;> rfl

theorem isSubtypeOf_iff_reaches_diamond :
    let object := Tag.ofSupertypes 1 "Object" []
    let left := Tag.ofSupertypes 2 "Left" [object]
    let right := Tag.ofSupertypes 3 "Right" [object]
    let both := Tag.ofSupertypes 4 "Both" [left, right, left]
    let other := Tag.ofSupertypes 5 "Left" []
    let r := ((((((({} : Realm).create (some "Object")).declare 0 "Left" []).declare
      0 "Right" []).declare 0 "Both" [left, right, left]).create none).declare
        1 "Left" []).declare 1 "Both" [both]
    r.Reachable ∧ r.tags = [object, left, right, both, other] ∧
      Relation.ReflTransGen r.Extends both object ∧ ¬ Relation.ReflTransGen r.Extends both other := by
  intro object left right both other r
  have hreach : r.Reachable := (((((((Reachable.start 1).create (some "Object")).declare
    0 "Left" []).declare 0 "Right" []).declare 0 "Both" [left, right, left]).create none).declare
      1 "Left" []).declare 1 "Both" [both]
  have htags : r.tags = [object, left, right, both, other] := by decide +kernel
  have hclosure := (isSubtypeOf_iff_reaches hreach).2.2 both (by simp [htags])
  refine ⟨hreach, htags, ?_, ?_⟩
  · exact (hclosure object (by simp [htags])).1.1 (by decide +kernel)
  · intro hpath
    have hsub := (hclosure other (by simp [htags])).1.2 hpath
    revert hsub
    decide +kernel

end Multimethod.Realm
