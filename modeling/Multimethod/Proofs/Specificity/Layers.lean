import Multimethod.Proofs.Specificity.Positions

/-! # Layers of a transitive relation -/

namespace Multimethod.Specificity

variable {α : Type} {implies : α → α → Bool}

/-! ## Nothing is made up or lost -/

theorem perm_peel (implies : α → α → Bool) (items : List α) :
    ((peel implies items).1 ++ (peel implies items).2).Perm items := by
  have hparts := List.filter_append_perm
    (fun i : Fin items.length => (dominators implies items).contains i.val)
    (List.finRange items.length)
  have h := hparts.map items.get
  rw [List.map_append, List.map_get_finRange] at h
  rw [peel_eq_map_positions]
  exact h

theorem perm_flatten_layers (implies : α → α → Bool) (items : List α) :
    (layers implies items).flatten.Perm items := by
  fun_induction layers implies items with
  | case1 => exact .nil
  | case2 items hne _ ih =>
    rw [List.flatten_cons]
    exact (ih.append_left _).trans (perm_peel implies items)

theorem mem_of_mem_layers {items layer : List α} {a : α} (hlayer : layer ∈ layers implies items)
    (ha : a ∈ layer) : a ∈ items :=
  (perm_flatten_layers implies items).mem_iff.1 (List.mem_flatten_of_mem hlayer ha)

/-! ## One peel -/

theorem contains_dominators (ht : Transitive implies) {items : List α} (i : Fin items.length) :
    (dominators implies items).contains i.val = topmost implies items (items.get i) := by
  have ht' : Transitive (onPositions implies items) := fun _ _ _ hij hjk => ht hij hjk
  rw [Bool.eq_iff_iff, List.contains_iff_mem, mem_dominators_iff, frontier_eq_filter ht',
    List.mem_filter, topmost_onPositions_iff, topmost_iff]
  simp [List.forall_mem_iff_getElem, Fin.forall_iff]

theorem peel_eq (ht : Transitive implies) (items : List α) :
    peel implies items =
      (items.filter (topmost implies items), items.filter fun a => !topmost implies items a) := by
  have hmap : ∀ q : α → Bool,
      ((List.finRange items.length).filter fun i => q (items.get i)).map items.get =
        items.filter q := by
    intro q
    conv => rhs; rw [← List.map_get_finRange items, List.filter_map]
    rfl
  simp only [peel_eq_map_positions, contains_dominators ht]
  rw [hmap, hmap fun a => !topmost implies items a]

theorem layers_eq_cons (ht : Transitive implies) {items : List α} (h : items ≠ []) :
    layers implies items = items.filter (topmost implies items) ::
      layers implies (items.filter fun a => !topmost implies items a) := by
  rw [layers_of_ne_nil implies h, peel_eq ht]

/-! ## The items in another order -/

theorem topmost_perm {items others : List α} (h : items.Perm others) :
    topmost implies items = topmost implies others := by
  funext a
  rw [Bool.eq_iff_iff, topmost_iff, topmost_iff]
  exact ⟨fun htop b hb => htop b (h.mem_iff.2 hb), fun htop b hb => htop b (h.mem_iff.1 hb)⟩

theorem forall₂_perm_layers (ht : Transitive implies) {items others : List α}
    (h : items.Perm others) :
    List.Forall₂ List.Perm (layers implies items) (layers implies others) := by
  fun_induction layers implies items generalizing others with
  | case1 =>
    rw [← h.nil_eq, layers_nil]
    exact .nil
  | case2 items hne _ ih =>
    have hne' : others ≠ [] := fun hnil => hne (hnil ▸ h).eq_nil
    rw [peel_eq ht] at ih ⊢
    rw [layers_eq_cons ht hne', ← topmost_perm h]
    exact .cons (h.filter _) (ih (h.filter _))

/-! ## A single topmost item -/

theorem eq_or_strictly_of_single (ht : Transitive implies) {items : List α} {a b : α}
    (h : items.filter (topmost implies items) = [a]) (hb : b ∈ items) :
    b = a ∨ strictly implies a b = true := by
  obtain ⟨c, hc, htop, hcb⟩ := exists_topmost ht hb
  have hca : c = a := by
    have hmem := List.mem_filter.2 ⟨hc, htop⟩
    rw [h] at hmem
    simpa using hmem
  rw [hca] at hcb
  exact hcb.imp_left Eq.symm

theorem mem_of_single {items : List α} {a : α}
    (h : items.filter (topmost implies items) = [a]) : a ∈ items := by
  have hmem : a ∈ items.filter (topmost implies items) := by simp [h]
  exact (List.mem_filter.1 hmem).1

theorem layers_of_single (ht : Transitive implies) {items : List α} {a : α}
    (h : items.filter (topmost implies items) = [a]) :
    layers implies items = [a] :: layers implies (items.filter (strictly implies a)) := by
  have ha := mem_of_single h
  have htop : topmost implies items a = true := by
    have hmem : a ∈ items.filter (topmost implies items) := by simp [h]
    exact (List.mem_filter.1 hmem).2
  rw [layers_eq_cons ht (List.ne_nil_of_mem ha), h]
  congr 2
  apply List.filter_congr
  intro b hb
  rcases eq_or_strictly_of_single ht h hb with rfl | hab
  · simp [htop, strictly_irrefl]
  · have : ¬ topmost implies items b = true := not_topmost_iff.2 ⟨a, ha, hab⟩
    simp [this, hab]

theorem length_filter_strictly_lt {items : List α} {a : α} (ha : a ∈ items) :
    (items.filter (strictly implies a)).length < items.length := by
  rw [List.length_filter_lt_length_iff_exists]
  exact ⟨a, ha, strictly_irrefl a⟩

/-- Induction down the layers, for what looks at one layer after the other as long as each is a single
item. -/
theorem descend (ht : Transitive implies) {motive : List α → Prop} (nil : motive [])
    (single : ∀ items a, items.filter (topmost implies items) = [a] →
      motive (items.filter (strictly implies a)) → motive items)
    (tie : ∀ items, 2 ≤ (items.filter (topmost implies items)).length → motive items)
    (items : List α) : motive items := by
  match h : items.filter (topmost implies items) with
  | [] =>
    rw [(filter_topmost_eq_nil_iff ht items).1 h]
    exact nil
  | [a] => exact single items a h (descend ht nil single tie _)
  | a :: b :: rest => exact tie items (by simp [h])
termination_by items.length
decreasing_by exact length_filter_strictly_lt (mem_of_single h)

end Multimethod.Specificity
