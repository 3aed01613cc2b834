import Mathlib.Data.List.Induction
import Multimethod.Specificity.Layers

/-! # Other items in the place of the items -/

namespace Multimethod.Specificity

variable {α γ : Type} {implies : α → α → Bool} {implies' : γ → γ → Bool} {e : α → γ}
  (h : ∀ a b, implies' (e a) (e b) = implies a b)

theorem length_flatten_map (layers : List (List α)) :
    (layers.map (·.map e)).flatten.length = layers.flatten.length := by
  rw [← List.map_flatten, List.length_map]

include h

theorem strictly_map (a b : α) : strictly implies' (e a) (e b) = strictly implies a b := by
  rw [strictly, strictly, h, h]

theorem sweep_map (new : α) (best : List α) :
    sweep implies' (e new) (best.map e) = (sweep implies new best).map e := by
  induction best with
  | nil => rfl
  | cons old rest ih =>
    simp only [List.map_cons, sweep, strictly_map h, ih]
    split
    · rfl
    · split <;> rfl

theorem frontier_map (items : List α) :
    frontier implies' (items.map e) = (frontier implies items).map e := by
  induction items using List.reverseRecOn with
  | nil => rfl
  | append_singleton items new ih =>
    rw [List.map_append, List.map_singleton, frontier_concat, frontier_concat, ih, sweep_map h]

theorem dominators_map (items : List α) :
    dominators implies' (items.map e) = dominators implies items := by
  have hpairs : frontier (fun a b => implies' a.1 b.1) (items.zipIdx.map (Prod.map e id)) = _ :=
    frontier_map (e := Prod.map e id) (fun a b : α × Nat => h a.1 b.1) items.zipIdx
  rw [dominators, List.zipIdx_map, hpairs, List.map_map]
  rfl

theorem peel_map (items : List α) :
    peel implies' (items.map e) =
      ((peel implies items).1.map e, (peel implies items).2.map e) := by
  simp only [peel, dominators_map h, List.partition_eq_filter_filter, List.zipIdx_map,
    List.filter_map, List.map_map]
  rfl

theorem layers_map (items : List α) :
    layers implies' (items.map e) = (layers implies items).map (·.map e) := by
  fun_induction layers implies items with
  | case1 => rw [List.map_nil, layers_nil, List.map_nil]
  | case2 items hne _ ih =>
    have hne' : items.map e ≠ [] := mt List.map_eq_nil_iff.1 hne
    rw [layers_of_ne_nil implies' hne', peel_map h, ih, List.map_cons]

end Multimethod.Specificity
