import Mathlib.Data.List.Sort
import Mathlib.Logic.Function.Iterate
import Multimethod.Proofs.Specificity.Layers
import Multimethod.Proofs.Specificity.Positions

/-!
# Layers of any relation

A frontier of items is never empty, even where every item is below another one, so the rounds end.
-/

namespace Multimethod.Specificity

variable {α : Type} {implies : α → α → Bool}

/-! ## One round -/

theorem sortedLT_of_sublist_finRange {n : Nat} {positions : List (Fin n)}
    (h : positions.Sublist (List.finRange n)) : positions.SortedLT :=
  ((List.sortedLT_finRange n).pairwise.sublist h).sortedLT

theorem fst_peel (implies : α → α → Bool) (items : List α) :
    (peel implies items).1 = frontier implies items := by
  have hbest : (List.finRange items.length).filter
        (fun i => (dominators implies items).contains i.val) =
      frontier (onPositions implies items) (List.finRange items.length) := by
    apply (sortedLT_of_sublist_finRange List.filter_sublist).eq_of_mem_iff
      (sortedLT_of_sublist_finRange (frontier_sublist _ _))
    intro i
    simp [mem_dominators_iff]
  rw [peel_eq_map_positions, hbest, ← frontier_eq_map_positions]

def leftover (implies : α → α → Bool) (items : List α) : List α := (peel implies items).2

theorem leftover_sublist (implies : α → α → Bool) (items : List α) :
    (leftover implies items).Sublist items := by
  have hsub : (leftover implies items).Sublist ((List.finRange items.length).map items.get) := by
    rw [leftover, peel_eq_map_positions]
    exact List.filter_sublist.map items.get
  rwa [List.map_get_finRange] at hsub

theorem leftover_nil (implies : α → α → Bool) : leftover implies ([] : List α) = [] := rfl

/-! ## All rounds -/

theorem exists_frontier_of_mem_layers {items layer : List α} (h : layer ∈ layers implies items) :
    ∃ remaining, remaining ≠ [] ∧ remaining.Sublist items ∧ layer = frontier implies remaining := by
  fun_induction layers implies items with
  | case1 => cases h
  | case2 items hne _ ih =>
    rcases List.mem_cons.1 h with rfl | h
    · exact ⟨items, hne, List.Sublist.refl items, fst_peel implies items⟩
    · obtain ⟨remaining, hremaining, hsub, hlayer⟩ := ih h
      exact ⟨remaining, hremaining, hsub.trans (leftover_sublist implies items), hlayer⟩

theorem ne_nil_of_mem_layers {items layer : List α} (h : layer ∈ layers implies items) :
    layer ≠ [] := by
  obtain ⟨remaining, hne, -, rfl⟩ := exists_frontier_of_mem_layers h
  exact frontier_ne_nil implies hne

theorem sublist_of_mem_layers {items layer : List α} (h : layer ∈ layers implies items) :
    layer.Sublist items := by
  obtain ⟨remaining, -, hsub, rfl⟩ := exists_frontier_of_mem_layers h
  exact (frontier_sublist implies remaining).trans hsub

theorem not_strictly_of_mem_layers {items layer : List α} (h : layer ∈ layers implies items) :
    ∀ a ∈ layer, ∀ b ∈ layer, ¬ strictly implies a b = true := by
  obtain ⟨remaining, -, -, rfl⟩ := exists_frontier_of_mem_layers h
  exact not_strictly_of_mem_frontier implies remaining

theorem iterate_leftover_nil (implies : α → α → Bool) (k : Nat) :
    (leftover implies)^[k] ([] : List α) = [] :=
  Function.iterate_fixed (leftover_nil implies) k

theorem iterate_leftover_eq_nil_iff (implies : α → α → Bool) (items : List α) (k : Nat) :
    (leftover implies)^[k] items = [] ↔ (layers implies items).length ≤ k := by
  fun_induction layers implies items generalizing k with
  | case1 => simp [iterate_leftover_nil]
  | case2 items hne _ ih =>
    cases k with
    | zero => simp [hne]
    | succ k =>
      rw [Function.iterate_succ_apply, List.length_cons, Nat.succ_le_succ_iff]
      exact ih k

theorem length_layers_le (implies : α → α → Bool) (items : List α) :
    (layers implies items).length ≤ items.length := by
  fun_induction layers implies items with
  | case1 => exact Nat.le_refl 0
  | case2 items hne hlt ih =>
    rw [List.length_cons]
    omega

theorem layers_eq_map_range (implies : α → α → Bool) (items : List α) :
    layers implies items = (List.range (layers implies items).length).map fun k =>
      (peel implies ((leftover implies)^[k] items)).1 := by
  fun_induction layers implies items with
  | case1 => rfl
  | case2 items hne _ ih =>
    rw [List.length_cons, List.range_succ_eq_map, List.map_cons, List.map_map]
    congr 1

theorem layers_eq_map_positions (implies : α → α → Bool) (items : List α) :
    layers implies items =
      (layers (onPositions implies items) (List.finRange items.length)).map (·.map items.get) := by
  conv => lhs; rw [← List.map_get_finRange items]
  exact layers_map (fun _ _ => rfl) _

/-- Whatever the relation, there are at most as many rounds as items, and the layers hold each
position of the list once. -/
theorem layers_part_positions (implies : α → α → Bool) (items : List α) :
    let found := layers implies items
    let chosen := dominators implies items
    (found.length ≤ items.length ∧
      (∀ k, (leftover implies)^[k] items = [] ↔ found.length ≤ k) ∧
      found = (List.range found.length).map fun k =>
        (peel implies ((leftover implies)^[k] items)).1) ∧
    (∃ positions : List (List (Fin items.length)), found = positions.map (·.map items.get) ∧
      positions.flatten.Perm (List.finRange items.length) ∧
      ∀ layer ∈ positions, layer ≠ [] ∧ layer.Pairwise (· < ·) ∧
        ∀ i ∈ layer, ∀ j ∈ layer, ¬ strictly implies (items.get i) (items.get j) = true) ∧
    (chosen = [] ↔ items = []) ∧ chosen.Pairwise (· < ·) ∧ (∀ i ∈ chosen, i < items.length) ∧
    ∀ i : Fin items.length,
      (∀ j : Fin items.length, ¬ strictly implies (items.get j) (items.get i) = true) →
        i.val ∈ chosen := by
  intro found chosen
  have hchosen : chosen = _ := dominators_eq_map_frontier implies items
  have hsub := frontier_sublist (onPositions implies items) (List.finRange items.length)
  refine ⟨⟨length_layers_le implies items, iterate_leftover_eq_nil_iff implies items,
    layers_eq_map_range implies items⟩, ?_, ?_, ?_, ?_, ?_⟩
  · -- Equal items stand at different positions, so it is positions that the layers part.
    refine ⟨layers (onPositions implies items) (List.finRange items.length),
      layers_eq_map_positions implies items, perm_flatten_layers _ _, fun layer hlayer => ?_⟩
    exact ⟨ne_nil_of_mem_layers hlayer,
      (sortedLT_of_sublist_finRange (sublist_of_mem_layers hlayer)).pairwise,
      not_strictly_of_mem_layers hlayer⟩
  · constructor
    · intro hnil
      by_contra hne
      have hpositions : List.finRange items.length ≠ [] := by simpa using hne
      exact frontier_ne_nil (onPositions implies items) hpositions (by simpa [hchosen] using hnil)
    · rintro rfl
      rfl
  · rw [hchosen, List.pairwise_map]
    exact (sortedLT_of_sublist_finRange hsub).pairwise
  · intro i hi
    rw [hchosen, List.mem_map] at hi
    obtain ⟨j, -, rfl⟩ := hi
    exact j.isLt
  · intro i htop
    exact (mem_dominators_iff i).2 (mem_frontier_of_topmost (List.mem_finRange i)
      ((topmost_onPositions_iff items i).2 htop))

/-- Each of three items is strictly above the next, and the last above the first. The second is turned
away by the first, and the first then goes when the third comes. -/
theorem layers_part_positions_cycle :
    let cycle := marked #["010", "001", "100"]
    (strictly cycle 0 1 = true ∧ strictly cycle 1 2 = true ∧ strictly cycle 2 0 = true) ∧
    layers cycle [0, 1, 2] = [[2], [0], [1]] ∧ dominators cycle [0, 1, 2] = [2] ∧
    (leftover cycle)^[3] [0, 1, 2] = [] ∧
    ∃ positions : List (List (Fin 3)), layers cycle [0, 1, 2] = positions.map (·.map [0, 1, 2].get) ∧
      positions.flatten.Perm (List.finRange 3) := by
  intro cycle
  obtain ⟨⟨-, hends, -⟩, ⟨positions, hfound, hperm, -⟩, -⟩ := layers_part_positions cycle [0, 1, 2]
  have hlayers : layers cycle [0, 1, 2] = [[2], [0], [1]] := by decide +kernel
  refine ⟨by decide +kernel, hlayers, by decide +kernel, ?_, positions, hfound, hperm⟩
  exact (hends 3).2 (by rw [hlayers]; decide)

end Multimethod.Specificity
