import Mathlib.Data.List.Nodup
import Multimethod.Proofs.Hierarchy.Reachable

/-!
# Who declared a type

A hierarchy asks of a supertype whether it knows that very type under its name. As no name and no serial
number is taken twice, it owns a type exactly if it declared it.
-/

namespace Multimethod

theorem nodup_map_concat {α γ : Type} {key : α → γ} {items : List α} {new : α}
    (hfree : key new ∉ items.map key) (h : (items.map key).Nodup) :
    ((items ++ [new]).map key).Nodup := by
  rw [List.map_append, List.map_singleton, ← List.concat_eq_append]
  exact List.Nodup.concat hfree h

/-! ## One hierarchy -/

theorem Tag.isSubtypeOf_ofSupertypes {s b : Tag} {supers : List Tag} (hs : s ∈ supers)
    (hsb : s.isSubtypeOf b = true) (serial : Nat) (name : String) :
    (ofSupertypes serial name supers).isSubtypeOf b = true := by
  refine isSubtypeOf_iff.2 (Or.inr (mem_above_ofSupertypes.2 ⟨s, hs, ?_⟩))
  exact (isSubtypeOf_iff.1 hsb).imp_left Eq.symm

namespace Hierarchy

variable {h h' : Hierarchy} {serial : Nat} {name : String} {supers : List Tag} {t : Tag}

theorem lookup_eq_none_iff : h.lookup name = none ↔ ∀ t ∈ h.types, t.name ≠ name := by
  simp [lookup]

theorem lookup_eq_some_iff (hnames : (h.types.map (·.name)).Nodup) :
    h.lookup name = some t ↔ t ∈ h.types ∧ t.name = name := by
  constructor
  · intro hfound
    exact ⟨List.mem_of_find?_eq_some hfound, by simpa using List.find?_some hfound⟩
  · rintro ⟨ht, hname⟩
    cases hfound : h.lookup name with
    | none => exact absurd hname (lookup_eq_none_iff.1 hfound t ht)
    | some u =>
      have hu : u ∈ h.types := List.mem_of_find?_eq_some hfound
      have huname : u.name = name := by simpa using List.find?_some hfound
      rw [List.inj_on_of_nodup_map hnames hu ht (huname.trans hname.symm)]

theorem owns_iff (hnames : (h.types.map (·.name)).Nodup) : h.owns t = true ↔ t ∈ h.types := by
  rw [owns, decide_eq_true_iff, lookup_eq_some_iff hnames]
  exact and_iff_left rfl

/-- What a hierarchy keeps apart from what it shares with others: it declares no name twice, what its
types stand below are types of it, and under a root there is nothing that is not below the root. -/
structure Formed (h : Hierarchy) : Prop where
  names : (h.types.map (·.name)).Nodup
  closed : ∀ t ∈ h.types, ∀ n ∈ t.above, ∃ s ∈ h.types, s.serial = n
  topped : ∀ root ∈ h.root, ∀ t ∈ h.types, t.isSubtypeOf root = true

theorem formed_rooted (serial : Nat) (name : String) : (rooted serial name).Formed where
  names := List.nodup_singleton name
  closed := by simp [rooted, Tag.ofSupertypes]
  topped := by simp [rooted, Tag.isSubtypeOf_refl]

theorem Formed.define (hh : h.Formed) (hroot : ∀ root ∈ h.root, root ∈ h.types)
    (hdefine : h.define serial name supers = .ok (t, h')) : h'.Formed := by
  obtain ⟨hnew, howns, rfl, rfl⟩ := define_eq_ok_iff.1 hdefine
  have hsupers : ∀ s ∈ h.supertypesOf supers, s ∈ h.types := fun s =>
    mem_types_of_mem_supertypesOf hroot howns
  refine ⟨?_, List.forall_mem_append.2 ⟨?_, List.forall_mem_singleton.2 ?_⟩, fun root hr =>
    List.forall_mem_append.2 ⟨hh.topped root hr, List.forall_mem_singleton.2 ?_⟩⟩
  · have hfree : name ∉ h.types.map (·.name) := by simpa using lookup_eq_none_iff.1 hnew
    exact nodup_map_concat hfree hh.names
  · intro t ht n hn
    obtain ⟨s, hs, hserial⟩ := hh.closed t ht n hn
    exact ⟨s, List.mem_append_left _ hs, hserial⟩
  · intro n hn
    obtain ⟨s, hs, rfl | hns⟩ := Tag.mem_above_ofSupertypes.1 hn
    · exact ⟨s, List.mem_append_left _ (hsupers s hs), rfl⟩
    · obtain ⟨u, hu, hserial⟩ := hh.closed s (hsupers s hs) n hns
      exact ⟨u, List.mem_append_left _ hu, hserial⟩
  · -- A type declared below nothing stands below the root, and any other below what does.
    cases supers with
    | nil =>
      have hmem : root ∈ h.supertypesOf [] := by simpa [supertypesOf] using hr
      exact Tag.isSubtypeOf_ofSupertypes hmem root.isSubtypeOf_refl serial name
    | cons s rest =>
      have hs : s ∈ h.types := mem_types_of_owns (howns s List.mem_cons_self)
      exact Tag.isSubtypeOf_ofSupertypes List.mem_cons_self (hh.topped root hr s hs) _ _

end Hierarchy

/-! ## All hierarchies of a program -/

namespace Realm

variable {r r' : Realm} {i j : Nat} {name : String} {supers : List Tag} {g : Hierarchy} {s t : Tag}
  {past : List (Nat × Tag)}

theorem Reachable.formed (hr : r.Reachable) : ∀ h ∈ r.hierarchies, h.Formed := by
  induction hr with
  | start next => simp
  | @create r hr root ih =>
    cases root with
    | none =>
      refine List.forall_mem_append.2 ⟨ih, List.forall_mem_singleton.2 ?_⟩
      exact ⟨List.nodup_nil, by simp, by simp⟩
    | some name =>
      exact List.forall_mem_append.2 ⟨ih, List.forall_mem_singleton.2 (Hierarchy.formed_rooted _ _)⟩
  | @declare r hr i name supers ih =>
    rcases r.declare_cases i name supers with hsame | ⟨tag, hdefine⟩
    · rwa [hsame]
    · obtain ⟨g, hi, hnew, howns, rfl, hr'⟩ := define_eq_ok_iff.1 hdefine
      rw [hr']
      intro h hh
      rcases List.mem_or_eq_of_mem_set hh with hother | rfl
      · exact ih h hother
      · have hg : g ∈ r.hierarchies := List.mem_of_getElem? hi
        exact (ih g hg).define (hr.sound.rooted g hg)
          (Hierarchy.define_eq_ok_iff.2 ⟨hnew, howns, rfl, rfl⟩)

/-! ## Who declared what -/

/-- A program comes to this realm, and meanwhile each of these types is declared, by the hierarchy at the
position beside it. A declaration that is refused leaves no mark. -/
inductive Follows : Realm → List (Nat × Tag) → Prop where
  | start (next : Nat) : Follows { next } []
  | unrooted {r : Realm} {past : List (Nat × Tag)} (h : Follows r past) :
    Follows (r.create none) past
  | rooted {r : Realm} {past : List (Nat × Tag)} (h : Follows r past) (name : String) :
    Follows (r.create (some name))
      (past ++ [(r.hierarchies.length, Tag.ofSupertypes r.next name [])])
  | declared {r r' : Realm} {past : List (Nat × Tag)} (h : Follows r past) {i : Nat} {name : String}
    {supers : List Tag} {tag : Tag} (hdefine : r.define i name supers = some (.ok (tag, r'))) :
    Follows r' (past ++ [(i, tag)])

theorem declare_eq (hdefine : r.define i name supers = some (.ok (t, r'))) :
    r.declare i name supers = r' := by
  rw [declare, hdefine]

theorem Follows.reachable (h : r.Follows past) : r.Reachable := by
  induction h with
  | start next => exact .start next
  | unrooted _ ih => exact ih.create none
  | rooted _ name ih => exact ih.create (some name)
  | declared _ hdefine ih => exact declare_eq hdefine ▸ ih.declare _ _ _

theorem reachable_iff_exists_follows : r.Reachable ↔ ∃ past, r.Follows past := by
  refine ⟨fun h => ?_, fun ⟨_, hpast⟩ => hpast.reachable⟩
  induction h with
  | start next => exact ⟨[], .start next⟩
  | @create r _ root ih =>
    obtain ⟨past, hpast⟩ := ih
    cases root with
    | none => exact ⟨past, hpast.unrooted⟩
    | some name => exact ⟨_, hpast.rooted name⟩
  | @declare r _ i name supers ih =>
    obtain ⟨past, hpast⟩ := ih
    rcases r.declare_cases i name supers with hsame | ⟨tag, hdefine⟩
    · exact ⟨past, hsame.symm ▸ hpast⟩
    · exact ⟨_, hpast.declared hdefine⟩

/-- Each declaration took a number of its own, and the next one is free. -/
structure Counts (next : Nat) (past : List (Nat × Tag)) : Prop where
  fresh : ∀ d ∈ past, d.2.serial < next
  distinct : (past.map (·.2.serial)).Nodup

theorem Counts.concat {next : Nat} (h : Counts next past) (i : Nat) (name : String)
    (supers : List Tag) :
    Counts (next + 1) (past ++ [(i, Tag.ofSupertypes next name supers)]) where
  fresh := List.forall_mem_append.2 ⟨fun d hd => Nat.lt_succ_of_lt (h.fresh d hd),
    List.forall_mem_singleton.2 (Nat.lt_succ_self next)⟩
  distinct := by
    refine nodup_map_concat (fun hmem => ?_) h.distinct
    obtain ⟨d, hd, hserial⟩ := List.mem_map.1 hmem
    exact Nat.ne_of_lt (h.fresh d hd) hserial

theorem Follows.counts (h : r.Follows past) : Counts r.next past := by
  induction h with
  | start next => exact ⟨by simp, List.nodup_nil⟩
  | unrooted _ ih => exact ih
  | @rooted r _ _ name ih => exact ih.concat r.hierarchies.length name []
  | @declared r _ _ _ i name supers _ hdefine ih =>
    obtain ⟨g, -, -, -, rfl, rfl⟩ := define_eq_ok_iff.1 hdefine
    exact ih.concat i name (g.supertypesOf supers)

theorem Follows.eq_of_serial_eq (h : r.Follows past) (hs : (i, s) ∈ past) (ht : (j, t) ∈ past)
    (hserial : s.serial = t.serial) : i = j ∧ s = t := by
  have heq : (i, s) = (j, t) := List.inj_on_of_nodup_map h.counts.distinct hs ht hserial
  exact Prod.mk.inj heq

def declaredBy (past : List (Nat × Tag)) (i : Nat) : List Tag := (past.filter (·.1 = i)).map (·.2)

theorem mem_declaredBy : t ∈ declaredBy past i ↔ (i, t) ∈ past := by
  simp [declaredBy]

theorem declaredBy_append (past : List (Nat × Tag)) (j : Nat) (types : List Tag) (i : Nat) :
    declaredBy (past ++ types.map (j, ·)) i = declaredBy past i ++ if j = i then types else [] := by
  rw [declaredBy, List.filter_append, List.map_append, List.filter_map, List.map_map]
  by_cases hji : j = i <;> simp [declaredBy, Function.comp_def, hji]

/-- A hierarchy holds the types that it declared, in this order, and no type was declared by one that is
not there. -/
structure Holds (r : Realm) (past : List (Nat × Tag)) : Prop where
  within : ∀ d ∈ past, d.1 < r.hierarchies.length
  types : ∀ i g, r.hierarchy? i = some g → g.types = declaredBy past i

theorem Holds.create (h : r.Holds past) (next : Nat) (new : Hierarchy) :
    Holds { next, hierarchies := r.hierarchies ++ [new] }
      (past ++ new.types.map (r.hierarchies.length, ·)) where
  within := by
    rw [List.length_append, List.length_singleton]
    refine List.forall_mem_append.2 ⟨fun d hd => Nat.lt_succ_of_lt (h.within d hd), ?_⟩
    simp
  types := by
    intro i g hg
    rw [declaredBy_append]
    rcases Nat.lt_trichotomy i r.hierarchies.length with hlt | rfl | hgt
    · have hold : r.hierarchy? i = some g := by
        rwa [hierarchy?, List.getElem?_append_left hlt] at hg
      rw [if_neg (Nat.ne_of_gt hlt), List.append_nil, h.types i g hold]
    · have hnone : declaredBy past r.hierarchies.length = [] := by
        refine List.eq_nil_iff_forall_not_mem.2 fun t ht => ?_
        exact Nat.lt_irrefl _ (h.within _ (mem_declaredBy.1 ht))
      have hnew : g = new := by simpa [hierarchy?] using hg.symm
      rw [hnone, if_pos rfl, List.nil_append, hnew]
    · have hlt := (List.getElem?_eq_some_iff.1 hg).1
      simp at hlt
      omega

theorem Holds.declared (h : r.Holds past) (hdefine : r.define i name supers = some (.ok (t, r'))) :
    r'.Holds (past ++ [(i, t)]) := by
  obtain ⟨g, hi, -, -, -, rfl⟩ := define_eq_ok_iff.1 hdefine
  have hlt : i < r.hierarchies.length := (List.getElem?_eq_some_iff.1 hi).1
  constructor
  · rw [List.length_set]
    exact List.forall_mem_append.2 ⟨h.within, List.forall_mem_singleton.2 hlt⟩
  · intro j g' hg'
    rw [hierarchy?, List.getElem?_set] at hg'
    rw [show [(i, t)] = [t].map (i, ·) from rfl, declaredBy_append]
    by_cases hij : i = j
    · subst hij
      obtain rfl : _ = g' := by simpa [hlt] using hg'
      rw [if_pos rfl, h.types i g hi]
    · rw [if_neg hij] at hg'
      rw [if_neg hij, List.append_nil, h.types j g' hg']

theorem Follows.holds (h : r.Follows past) : r.Holds past := by
  induction h with
  | start next => exact ⟨by simp, by simp [hierarchy?]⟩
  | @unrooted r past _ ih =>
    have hcreate := ih.create r.next {}
    rwa [List.map_nil, List.append_nil] at hcreate
  | @rooted r _ _ name ih => exact ih.create (r.next + 1) (Hierarchy.rooted r.next name)
  | declared _ hdefine ih => exact ih.declared hdefine

theorem Follows.lookup_eq_none_iff (h : r.Follows past) (hi : r.hierarchy? i = some g) :
    g.lookup name = none ↔ ¬ ∃ t, (i, t) ∈ past ∧ t.name = name := by
  rw [Hierarchy.lookup_eq_none_iff, h.holds.types i g hi]
  simp [mem_declaredBy]

theorem Follows.owns_iff (h : r.Follows past) (hi : r.hierarchy? i = some g) :
    g.owns t = true ↔ (i, t) ∈ past := by
  rw [Hierarchy.owns_iff (h.reachable.formed g (List.mem_of_getElem? hi)).names,
    h.holds.types i g hi, mem_declaredBy]

end Realm

/-! ## Namesakes -/

namespace Namesakes

def object : Tag := .ofSupertypes 1 "Object" []
def stranger : Tag := .ofSupertypes 2 "Object" []
def left : Tag := .ofSupertypes 3 "Left" [object]
def strangerLeft : Tag := .ofSupertypes 4 "Left" [stranger]
def right : Tag := .ofSupertypes 5 "Right" [object]
def both : Tag := .ofSupertypes 6 "Both" [left, right, left]

def realm : Realm where
  next := 7
  hierarchies :=
    [⟨some object, [object, left, right, both]⟩, ⟨some stranger, [stranger, strangerLeft]⟩]

def past : List (Nat × Tag) :=
  [(0, object), (1, stranger), (0, left), (1, strangerLeft), (0, right), (0, both)]

theorem follows : realm.Follows past := by
  have hroots := ((Realm.Follows.start 1).rooted "Object").rooted "Object"
  have hleft := hroots.declared
    (show Realm.define _ 0 "Left" [] = some (.ok (left, _)) from
      Realm.define_eq_ok_iff.2 ⟨_, rfl, by decide, List.forall_mem_nil _, rfl, rfl⟩)
  have hstranger := hleft.declared
    (show Realm.define _ 1 "Left" [] = some (.ok (strangerLeft, _)) from
      Realm.define_eq_ok_iff.2 ⟨_, rfl, by decide, List.forall_mem_nil _, rfl, rfl⟩)
  have hright := hstranger.declared
    (show Realm.define _ 0 "Right" [] = some (.ok (right, _)) from
      Realm.define_eq_ok_iff.2 ⟨_, rfl, by decide, List.forall_mem_nil _, rfl, rfl⟩)
  exact hright.declared
    (show Realm.define _ 0 "Both" [left, right, left] = some (.ok (both, _)) from
      Realm.define_eq_ok_iff.2 ⟨_, rfl, by decide, by decide +kernel, rfl, rfl⟩)

end Namesakes

end Multimethod
