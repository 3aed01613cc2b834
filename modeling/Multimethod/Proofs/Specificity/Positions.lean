import Mathlib.Data.List.FinRange
import Multimethod.Proofs.Specificity.Frontier
import Multimethod.Proofs.Specificity.Images

/-! # The positions of the frontier -/

namespace Multimethod.Specificity

variable {α : Type} {implies : α → α → Bool}

/-! ## One new item -/

/-- A member strictly above the new item turns it away, though others may have gone before. -/
theorem sweep_sublist_of_below {new : α} {best : List α}
    (h : ∃ b ∈ best, strictly implies b new = true) :
    (sweep implies new best).Sublist best := by
  induction best with
  | nil => simp at h
  | cons old rest ih =>
    obtain ⟨b, hb, hbnew⟩ := h
    have hrest : ¬ strictly implies old new = true → ∃ b ∈ rest, strictly implies b new = true := by
      intro hold
      rcases List.mem_cons.1 hb with rfl | hb
      · exact absurd hbnew hold
      · exact ⟨b, hb, hbnew⟩
    rw [sweep]
    split
    · next hnew =>
      have hold : ¬ strictly implies old new = true := strictly_asymm hnew
      exact (ih (hrest hold)).cons old
    · split
      · exact List.Sublist.refl _
      · next hold => exact (ih (hrest hold)).cons_cons old

theorem sweep_sublist (implies : α → α → Bool) (new : α) (best : List α) :
    (sweep implies new best).Sublist (best ++ [new]) := by
  by_cases h : ∃ b ∈ best, strictly implies b new = true
  · exact (sweep_sublist_of_below h).trans (List.sublist_append_left best [new])
  · rw [sweep_of_not_below (by simpa using h)]
    exact List.filter_sublist.append_right [new]

theorem not_strictly_of_mem_sweep {new : α} {best : List α}
    (h : ∀ a ∈ best, ∀ b ∈ best, ¬ strictly implies a b = true) :
    ∀ a ∈ sweep implies new best, ∀ b ∈ sweep implies new best, ¬ strictly implies a b = true := by
  by_cases hbelow : ∃ b ∈ best, strictly implies b new = true
  · have hsub := (sweep_sublist_of_below hbelow).subset
    exact fun a ha b hb => h a (hsub ha) b (hsub hb)
  · have hjoin : ∀ b ∈ best, ¬ strictly implies b new = true := by simpa using hbelow
    rw [sweep_of_not_below hjoin]
    intro a ha b hb
    simp only [List.mem_append, List.mem_filter, List.mem_singleton, Bool.not_eq_true'] at ha hb
    rcases ha with ⟨ha, -⟩ | rfl
    · rcases hb with ⟨hb, -⟩ | rfl
      · exact h a ha b hb
      · exact hjoin a ha
    · rcases hb with ⟨-, hnew⟩ | rfl
      · simp [hnew]
      · exact strictly_irrefl b

theorem mem_sweep_of_mem {new a : α} {best : List α} (ha : a ∈ best)
    (h : ¬ strictly implies new a = true) : a ∈ sweep implies new best := by
  induction best with
  | nil => cases ha
  | cons old rest ih =>
    rw [sweep]
    rcases List.mem_cons.1 ha with rfl | ha
    · rw [if_neg h]
      split <;> exact List.mem_cons_self
    · split
      · exact ih ha
      · split
        · exact List.mem_cons_of_mem old ha
        · exact List.mem_cons_of_mem old (ih ha)

/-! ## The whole list -/

theorem frontier_sublist (implies : α → α → Bool) (items : List α) :
    (frontier implies items).Sublist items := by
  induction items using List.reverseRecOn with
  | nil => exact List.Sublist.refl _
  | append_singleton items new ih =>
    rw [frontier_concat]
    exact (sweep_sublist implies new _).trans (ih.append_right [new])

theorem not_strictly_of_mem_frontier (implies : α → α → Bool) (items : List α) :
    ∀ a ∈ frontier implies items, ∀ b ∈ frontier implies items, ¬ strictly implies a b = true := by
  induction items using List.reverseRecOn with
  | nil => simp [frontier]
  | append_singleton items new ih =>
    rw [frontier_concat]
    exact not_strictly_of_mem_sweep ih

theorem mem_frontier_of_topmost {items : List α} {a : α} (ha : a ∈ items)
    (htop : topmost implies items a = true) : a ∈ frontier implies items := by
  induction items using List.reverseRecOn with
  | nil => cases ha
  | append_singleton items new ih =>
    rw [topmost_concat, Bool.and_eq_true] at htop
    rw [frontier_concat]
    rcases List.mem_append.1 ha with ha | ha
    · exact mem_sweep_of_mem (ih ha htop.1) (by simpa using htop.2)
    · obtain rfl := List.mem_singleton.1 ha
      have hjoin : ∀ b ∈ frontier implies items, ¬ strictly implies b a = true :=
        fun b hb => topmost_iff.1 htop.1 b (mem_of_mem_frontier hb)
      rw [sweep_of_not_below hjoin]
      simp

/-! ## Positions -/

def onPositions (implies : α → α → Bool) (items : List α) (i j : Fin items.length) : Bool :=
  implies (items.get i) (items.get j)

theorem strictly_onPositions (items : List α) (i j : Fin items.length) :
    strictly (onPositions implies items) i j = strictly implies (items.get i) (items.get j) :=
  rfl

theorem topmost_onPositions_iff (items : List α) (i : Fin items.length) :
    topmost (onPositions implies items) (List.finRange items.length) i = true ↔
      ∀ j : Fin items.length, ¬ strictly implies (items.get j) (items.get i) = true := by
  simp [topmost_iff, strictly_onPositions]

theorem zipIdx_eq_map_finRange (items : List α) :
    items.zipIdx = (List.finRange items.length).map fun i => (items.get i, i.val) := by
  apply List.ext_getElem
  · simp
  · intro k hk hk'
    simp

theorem dominators_eq_map_frontier (implies : α → α → Bool) (items : List α) :
    dominators implies items =
      (frontier (onPositions implies items) (List.finRange items.length)).map Fin.val := by
  have hpairs : frontier (fun a b : α × Nat => implies a.1 b.1)
        ((List.finRange items.length).map fun i => (items.get i, i.val)) =
      (frontier (onPositions implies items) (List.finRange items.length)).map
        fun i => (items.get i, i.val) := frontier_map (fun _ _ => rfl) _
  rw [dominators, zipIdx_eq_map_finRange, hpairs, List.map_map]
  rfl

theorem mem_dominators_iff {items : List α} (i : Fin items.length) :
    i.val ∈ dominators implies items ↔
      i ∈ frontier (onPositions implies items) (List.finRange items.length) := by
  rw [dominators_eq_map_frontier, List.mem_map]
  constructor
  · rintro ⟨j, hj, hji⟩
    rwa [← Fin.ext hji]
  · intro hi
    exact ⟨i, hi, rfl⟩

theorem peel_eq_map_positions (implies : α → α → Bool) (items : List α) :
    peel implies items =
      (((List.finRange items.length).filter fun i =>
          (dominators implies items).contains i.val).map items.get,
        ((List.finRange items.length).filter fun i =>
          !(dominators implies items).contains i.val).map items.get) := by
  simp only [peel, zipIdx_eq_map_finRange, List.partition_eq_filter_filter, List.filter_map,
    List.map_map]
  rfl

theorem frontier_eq_map_positions (implies : α → α → Bool) (items : List α) :
    frontier implies items =
      (frontier (onPositions implies items) (List.finRange items.length)).map items.get := by
  conv => lhs; rw [← List.map_get_finRange items]
  exact frontier_map (fun _ _ => rfl) _

/-- The positions that a pass leaves are those of the items that no item is strictly above. -/
theorem dominators_eq_filter (ht : Transitive implies) (items : List α) :
    dominators implies items = ((List.finRange items.length).filter fun i =>
      ∀ j : Fin items.length,
        ¬ (implies (items.get j) (items.get i) = true ∧
          ¬ implies (items.get i) (items.get j) = true)).map Fin.val := by
  have ht' : Transitive (onPositions implies items) := fun _ _ _ hij hjk => ht hij hjk
  rw [dominators_eq_map_frontier, frontier_eq_filter ht']
  congr 1
  apply List.filter_congr
  intro i _
  rw [Bool.eq_iff_iff, topmost_onPositions_iff, decide_eq_true_iff]
  simp only [strictly_iff]

theorem dominators_eq_filter_multiples :
    let items : List Int := [4, -6, 12, 6, 7, -12, 2]
    Transitive multiple ∧ dominators multiple items = [2, 4, 5] ∧
      dominators multiple items = ((List.finRange items.length).filter fun i =>
        ∀ j : Fin items.length,
          ¬ (multiple (items.get j) (items.get i) = true ∧
            ¬ multiple (items.get i) (items.get j) = true)).map Fin.val :=
  ⟨transitive_multiple, by decide +kernel, dominators_eq_filter transitive_multiple _⟩

end Multimethod.Specificity
