import Multimethod.Specificity.Frontier

/-! # Layers of decreasing specificity -/

namespace Multimethod.Specificity

variable {α : Type}

/-- The items at the positions of the frontier, and the others, each in the order of the list. -/
def peel (implies : α → α → Bool) (items : List α) : List α × List α :=
  let best := dominators implies items
  let (chosen, left) := items.zipIdx.partition fun item => best.contains item.2
  (chosen.map (·.1), left.map (·.1))

theorem length_rest_peel_lt (implies : α → α → Bool) {items : List α} (h : items ≠ []) :
    (peel implies items).2.length < items.length := by
  have hz : items.zipIdx ≠ [] := by simpa [List.zipIdx_eq_nil_iff] using h
  obtain ⟨p, hp⟩ := List.exists_mem_of_ne_nil _
    (frontier_ne_nil (fun (a b : α × Nat) => implies a.1 b.1) hz)
  have hbest : p.2 ∈ dominators implies items := List.mem_map_of_mem hp
  have hlt : (items.zipIdx.filter fun item => !(dominators implies items).contains item.2).length <
      items.zipIdx.length := by
    rw [List.length_filter_lt_length_iff_exists]
    exact ⟨p, mem_of_mem_frontier hp, by simpa using hbest⟩
  simpa [peel, List.partition_eq_filter_filter, Function.comp_def] using hlt

/-- The frontier first, then the layers of what remains. -/
def layers (implies : α → α → Bool) (items : List α) : List (List α) :=
  if h : items = [] then []
  else
    have := length_rest_peel_lt implies h
    (peel implies items).1 :: layers implies (peel implies items).2
termination_by items.length

theorem layers_nil (implies : α → α → Bool) : layers implies ([] : List α) = [] := by
  rw [layers]; simp

theorem layers_of_ne_nil (implies : α → α → Bool) {items : List α} (h : items ≠ []) :
    layers implies items = (peel implies items).1 :: layers implies (peel implies items).2 := by
  rw [layers]; simp [h]

theorem layers_eq_nil_iff (implies : α → α → Bool) (items : List α) :
    layers implies items = [] ↔ items = [] := by
  constructor
  · intro h
    apply Classical.byContradiction
    intro hne
    rw [layers_of_ne_nil implies hne] at h
    exact List.cons_ne_nil _ _ h
  · rintro rfl
    exact layers_nil implies

end Multimethod.Specificity
