import Multimethod.Proofs.Chain.Embedding
import Multimethod.Proofs.Hierarchy.Reachable

/-!
# Other serial numbers

Serial numbers tell types apart and do nothing else.
-/

namespace Multimethod

def TagRef.rename (σ : Nat → Nat) (r : TagRef) : TagRef := ⟨σ r.serial, r.name⟩

def Tag.rename (σ : Nat → Nat) (t : Tag) : Tag where
  serial := σ t.serial
  name := t.name
  supertypes := t.supertypes.map (·.rename σ)
  above := t.above.map σ

def Hierarchy.rename (σ : Nat → Nat) (h : Hierarchy) : Hierarchy where
  root := h.root.map (·.rename σ)
  types := h.types.map (·.rename σ)

variable {σ : Nat → Nat}

/-! ## Tags -/

theorem eraseDups_map (hσ : Function.Injective σ) (numbers : List Nat) :
    (numbers.map σ).eraseDups = numbers.eraseDups.map σ := by
  match numbers with
  | [] => rfl
  | n :: rest =>
    have hfilter : (rest.map σ).filter (fun k => !k == σ n) = (rest.filter fun k => !k == n).map σ := by
      rw [List.filter_map]
      congr 1
      refine List.filter_congr fun k _ => congrArg (!·) ?_
      rw [Bool.eq_iff_iff, beq_iff_eq, beq_iff_eq, hσ.eq_iff]
    have hshorter : (rest.filter fun k => !k == n).length ≤ rest.length := List.length_filter_le ..
    rw [List.map_cons, List.eraseDups_cons, List.eraseDups_cons, hfilter, eraseDups_map hσ, List.map_cons]
termination_by numbers.length

theorem TagRef.rename_injective (hσ : Function.Injective σ) : Function.Injective (rename σ) := by
  rintro ⟨serial, name⟩ ⟨serial', name'⟩ h
  obtain ⟨hserial, hname⟩ := TagRef.mk.inj h
  obtain rfl : serial = serial' := hσ hserial
  obtain rfl : name = name' := hname
  rfl

namespace Tag

theorem toString_rename (t : Tag) : toString (t.rename σ) = toString t := rfl

theorem ofSupertypes_rename (hσ : Function.Injective σ) (serial : Nat) (name : String)
    (supers : List Tag) :
    (ofSupertypes serial name supers).rename σ =
      ofSupertypes (σ serial) name (supers.map (·.rename σ)) := by
  simp only [ofSupertypes, rename, ← eraseDups_map hσ, List.map_flatMap, List.flatMap_map,
    List.map_map, List.map_cons]
  rfl

theorem rename_injective (hσ : Function.Injective σ) : Function.Injective (rename σ) := by
  rintro ⟨self, supertypes, above⟩ ⟨self', supertypes', above'⟩ h
  obtain ⟨hself, hsupertypes, habove⟩ := Tag.mk.inj h
  obtain rfl : self = self' := TagRef.rename_injective hσ hself
  obtain rfl : supertypes = supertypes' :=
    List.map_injective_iff.2 (TagRef.rename_injective hσ) hsupertypes
  obtain rfl : above = above' := List.map_injective_iff.2 hσ habove
  rfl

theorem isSubtypeOf_rename (hσ : Function.Injective σ) (a b : Tag) :
    (a.rename σ).isSubtypeOf (b.rename σ) = a.isSubtypeOf b := by
  rw [Bool.eq_iff_iff]
  simp only [isSubtypeOf, rename, Bool.or_eq_true, decide_eq_true_eq, List.contains_iff_mem,
    hσ.eq_iff, List.mem_map_of_injective hσ]

theorem embeds_rename (hσ : Function.Injective σ) : Embeds (rename σ) where
  injective := rename_injective hσ
  accepts declared actual := isSubtypeOf_rename hσ actual declared

end Tag

/-! ## Hierarchies -/

namespace Hierarchy

theorem lookup_rename (h : Hierarchy) (name : String) :
    (h.rename σ).lookup name = (h.lookup name).map (·.rename σ) := by
  rw [lookup, lookup, rename, List.find?_map]
  rfl

theorem rename_rooted (hσ : Function.Injective σ) (serial : Nat) (name : String) :
    (rooted serial name).rename σ = rooted (σ serial) name := by
  simp only [rooted, rename, Option.map_some, List.map_singleton, Tag.ofSupertypes_rename hσ,
    List.map_nil]

theorem owns_rename (hσ : Function.Injective σ) (h : Hierarchy) (t : Tag) :
    (h.rename σ).owns (t.rename σ) = h.owns t := by
  have hname : (t.rename σ).name = t.name := rfl
  rw [owns, owns, hname, lookup_rename, ← Option.map_some]
  exact decide_eq_decide.2 (Option.map_injective (Tag.rename_injective hσ)).eq_iff

theorem supertypesOf_rename (h : Hierarchy) (supers : List Tag) :
    (h.rename σ).supertypesOf (supers.map (·.rename σ)) =
      (h.supertypesOf supers).map (·.rename σ) := by
  rw [supertypesOf, supertypesOf, List.isEmpty_map]
  split
  · cases hroot : h.root <;> simp [rename, hroot]
  · rfl

theorem define_rename (hσ : Function.Injective σ) (h : Hierarchy) (serial : Nat) (name : String)
    (supers : List Tag) :
    (h.rename σ).define (σ serial) name (supers.map (·.rename σ)) =
      (h.define serial name supers).map (Prod.map (·.rename σ) (·.rename σ)) := by
  have hforeign : (supers.map (·.rename σ)).find? (fun s => !(h.rename σ).owns s) =
      (supers.find? fun s => !h.owns s).map (·.rename σ) := by
    rw [List.find?_map]
    simp only [Function.comp_def, owns_rename hσ]
  rw [define, define, lookup_rename, Option.isSome_map, hforeign, supertypesOf_rename,
    ← Tag.ofSupertypes_rename hσ]
  split
  · rfl
  · cases supers.find? fun s => !h.owns s with
    | some s => rfl
    | none =>
      simp only [rename, Option.map_none, Except.map, Prod.map_apply, List.map_append, List.map_singleton]

theorem define_eq_error {h : Hierarchy} {serial : Nat} {name : String} {supers : List Tag}
    {error : DefinitionError} (hdefine : h.define serial name supers = .error error) (other : Nat) :
    h.define other name supers = .error error := by
  unfold define at hdefine ⊢
  split at hdefine
  · next htaken => rw [if_pos htaken, hdefine]
  · next hfree =>
    rw [if_neg hfree]
    split at hdefine
    · exact hdefine
    · cases hdefine

end Hierarchy

/-! ## Realms -/

namespace Realm

def counting (r : Realm) (next : Nat) : Realm := { r with next }

def rename (σ : Nat → Nat) (r : Realm) : Realm where
  next := σ r.next
  hierarchies := r.hierarchies.map (·.rename σ)

theorem hierarchy?_rename (r : Realm) (i : Nat) :
    (r.rename σ).hierarchy? i = (r.hierarchy? i).map (·.rename σ) := List.getElem?_map

theorem create_rename (hσ : Function.Injective σ) (r : Realm) (root : Option String) :
    (r.rename σ).create root =
      ((r.create root).rename σ).counting (σ r.next + ((r.create root).next - r.next)) := by
  cases root with
  | none =>
    simp only [create, rename, counting, List.map_append, Nat.sub_self, Nat.add_zero]
    rfl
  | some name =>
    simp only [create, rename, counting, List.map_append, List.map_singleton,
      Hierarchy.rename_rooted hσ, Nat.add_sub_cancel_left]

theorem define_rename (hσ : Function.Injective σ) (r : Realm) (i : Nat) (name : String)
    (supers : List Tag) :
    (r.rename σ).define i name (supers.map (·.rename σ)) =
      (r.define i name supers).map
        (·.map (Prod.map (·.rename σ) fun r' => (r'.rename σ).counting (σ r.next + 1))) := by
  rw [define, define, hierarchy?_rename, Option.map_map, Option.map_map]
  congr 1
  funext h
  have hdefine := Hierarchy.define_rename hσ h r.next name supers
  simp only [Function.comp_apply, rename] at hdefine ⊢
  rw [hdefine]
  rcases h.define r.next name supers with error | ⟨tag, h'⟩
  · rfl
  · simp only [Except.map, Prod.map_apply, counting, List.map_set]

theorem next_of_define {r r' : Realm} {i : Nat} {name : String} {supers : List Tag} {tag : Tag}
    (h : r.define i name supers = some (.ok (tag, r'))) : r'.next = r.next + 1 := by
  obtain ⟨_, -, -, -, -, rfl⟩ := define_eq_ok_iff.1 h
  rfl

/-- A declaration that fails does not look at the serial numbers. -/
theorem define_counting {r : Realm} {i : Nat} {name : String} {supers : List Tag}
    (h : ∀ tag r', r.define i name supers ≠ some (.ok (tag, r'))) (next : Nat) :
    (r.counting next).define i name supers = r.define i name supers := by
  have hsame : (r.counting next).hierarchy? i = r.hierarchy? i := rfl
  unfold define at h ⊢
  rw [hsame]
  cases hi : r.hierarchy? i with
  | none => rfl
  | some g =>
    rcases hdefine : g.define r.next name supers with error | ⟨tag, g'⟩
    · simp only [Option.map_some, hdefine, Hierarchy.define_eq_error hdefine (r.counting next).next]
    · simp [hi, hdefine] at h

end Realm

end Multimethod
