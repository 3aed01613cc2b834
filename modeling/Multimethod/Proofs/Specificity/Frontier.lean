import Mathlib.Data.List.Induction
import Multimethod.Specificity.Frontier
import Multimethod.Specificity.Orders

/-! # The frontier of a transitive relation -/

namespace Multimethod.Specificity

variable {α : Type} {implies : α → α → Bool}

def Transitive (implies : α → α → Bool) : Prop :=
  ∀ ⦃a b c⦄, implies a b = true → implies b c = true → implies a c = true

/-! ## Multiples -/

theorem multiple_iff {a b : Int} : multiple a b = true ↔ b ∣ a := by
  unfold multiple
  split
  · next h => rw [h, Int.zero_dvd, decide_eq_true_iff]
  · rw [decide_eq_true_iff, Int.dvd_iff_emod_eq_zero]

theorem transitive_multiple : Transitive multiple :=
  fun _ _ _ hab hbc => multiple_iff.2 (Int.dvd_trans (multiple_iff.1 hbc) (multiple_iff.1 hab))

/-! ## Strict implication -/

theorem strictly_iff {a b : α} :
    strictly implies a b = true ↔ implies a b = true ∧ ¬ implies b a = true := by
  simp [strictly]

theorem strictly_irrefl (a : α) : ¬ strictly implies a a = true := by
  simp [strictly]

theorem strictly_asymm {a b : α} (h : strictly implies a b = true) :
    ¬ strictly implies b a = true :=
  fun hba => (strictly_iff.1 hba).2 (strictly_iff.1 h).1

theorem strictly_trans (ht : Transitive implies) {a b c : α} (hab : strictly implies a b = true)
    (hbc : strictly implies b c = true) : strictly implies a c = true := by
  have ⟨h1, _⟩ := strictly_iff.1 hab
  have ⟨h2, h3⟩ := strictly_iff.1 hbc
  exact strictly_iff.2 ⟨ht h1 h2, fun hca => h3 (ht hca h1)⟩

/-! ## Topmost items -/

/-- No item of the list is strictly above `a`. -/
def topmost (implies : α → α → Bool) (items : List α) (a : α) : Bool :=
  items.all fun b => !strictly implies b a

theorem topmost_iff {items : List α} {a : α} :
    topmost implies items a = true ↔ ∀ b ∈ items, ¬ strictly implies b a = true := by
  simp [topmost]

theorem not_topmost_iff {items : List α} {a : α} :
    ¬ topmost implies items a = true ↔ ∃ b ∈ items, strictly implies b a = true := by
  simp [topmost]

theorem topmost_concat (items : List α) (new a : α) :
    topmost implies (items ++ [new]) a = (topmost implies items a && !strictly implies new a) := by
  simp [topmost]

theorem topmost_concat_self (items : List α) (new : α) :
    topmost implies (items ++ [new]) new = topmost implies items new := by
  rw [topmost_concat, Bool.eq_false_iff.2 (strictly_irrefl new), Bool.not_false, Bool.and_true]

theorem exists_topmost (ht : Transitive implies) {items : List α} {a : α} (ha : a ∈ items) :
    ∃ b ∈ items, topmost implies items b = true ∧ (b = a ∨ strictly implies b a = true) := by
  induction items using List.reverseRecOn generalizing a with
  | nil => cases ha
  | append_singleton items new ih =>
    -- A topmost item of the shorter list stays so, unless the new one is above it and takes over.
    have climb : ∀ b ∈ items, topmost implies items b = true → (b = a ∨ strictly implies b a = true) →
        ∃ b ∈ items ++ [new], topmost implies (items ++ [new]) b = true ∧
          (b = a ∨ strictly implies b a = true) := by
      intro b hb htop hba
      by_cases hnew : strictly implies new b = true
      · have hnewtop : topmost implies items new = true :=
          topmost_iff.2 fun c hc hcnew => topmost_iff.1 htop c hc (strictly_trans ht hcnew hnew)
        refine ⟨new, by simp, by rwa [topmost_concat_self], Or.inr ?_⟩
        rcases hba with rfl | hba
        · exact hnew
        · exact strictly_trans ht hnew hba
      · exact ⟨b, by simp [hb], by simp [topmost_concat, htop, hnew], hba⟩
    by_cases hmem : a ∈ items
    · obtain ⟨b, hb, htop, hba⟩ := ih hmem
      exact climb b hb htop hba
    · obtain rfl : a = new := by simpa [hmem] using ha
      by_cases habove : topmost implies items a = true
      · exact ⟨a, by simp, by rwa [topmost_concat_self], Or.inl rfl⟩
      · obtain ⟨c, hc, hca⟩ := not_topmost_iff.1 habove
        obtain ⟨b, hb, htop, hbc⟩ := ih hc
        apply climb b hb htop
        rcases hbc with rfl | hbc
        · exact Or.inr hca
        · exact Or.inr (strictly_trans ht hbc hca)

theorem filter_topmost_eq_nil_iff (ht : Transitive implies) (items : List α) :
    items.filter (topmost implies items) = [] ↔ items = [] := by
  constructor
  · intro h
    apply List.eq_nil_iff_forall_not_mem.2
    intro a ha
    obtain ⟨b, hb, htop, _⟩ := exists_topmost ht ha
    exact List.filter_eq_nil_iff.1 h b hb htop
  · rintro rfl
    rfl

theorem filter_topmost_concat_of_below (ht : Transitive implies) {items : List α} {new : α}
    (h : ∃ c ∈ items, strictly implies c new = true) :
    (items ++ [new]).filter (topmost implies (items ++ [new])) =
      items.filter (topmost implies items) := by
  obtain ⟨c, hc, hcnew⟩ := h
  have hnew : ¬ topmost implies items new = true := not_topmost_iff.2 ⟨c, hc, hcnew⟩
  have hkeep : ∀ a ∈ items, topmost implies (items ++ [new]) a = topmost implies items a := by
    intro a _
    rw [topmost_concat]
    by_cases hnewa : strictly implies new a = true
    · have : ¬ topmost implies items a = true :=
        not_topmost_iff.2 ⟨c, hc, strictly_trans ht hcnew hnewa⟩
      simp [this]
    · simp [hnewa]
  rw [List.filter_append, List.filter_congr hkeep]
  simp [topmost_concat_self, hnew]

/-! ## One pass -/

theorem sweep_of_not_below {new : α} {best : List α}
    (h : ∀ b ∈ best, ¬ strictly implies b new = true) :
    sweep implies new best = (best.filter fun b => !strictly implies new b) ++ [new] := by
  induction best with
  | nil => rfl
  | cons old rest ih =>
    have hold := h old List.mem_cons_self
    have hrest := ih fun b hb => h b (List.mem_cons_of_mem _ hb)
    rw [sweep, if_neg hold, hrest]
    by_cases hnew : strictly implies new old = true <;> simp [hnew]

theorem sweep_of_below (ht : Transitive implies) {new : α} {best : List α}
    (hanti : ∀ a ∈ best, ∀ b ∈ best, ¬ strictly implies a b = true)
    (h : ∃ b ∈ best, strictly implies b new = true) : sweep implies new best = best := by
  induction best with
  | nil => simp at h
  | cons old rest ih =>
    obtain ⟨b, hb, hbnew⟩ := h
    have hnew : ¬ strictly implies new old = true := fun hnew =>
      hanti b hb old List.mem_cons_self (strictly_trans ht hbnew hnew)
    rw [sweep, if_neg hnew]
    split
    · rfl
    · next hold =>
      have hrest : b ∈ rest := by
        rcases List.mem_cons.1 hb with rfl | hb
        · exact absurd hbnew hold
        · exact hb
      rw [ih (fun a ha c hc => hanti a (List.mem_cons_of_mem _ ha) c (List.mem_cons_of_mem _ hc))
        ⟨b, hrest, hbnew⟩]

theorem frontier_eq_filter (ht : Transitive implies) (items : List α) :
    frontier implies items = items.filter (topmost implies items) := by
  induction items using List.reverseRecOn with
  | nil => rfl
  | append_singleton items new ih =>
    rw [frontier_concat, ih, List.filter_append]
    by_cases hnew : topmost implies items new = true
    · have hjoin : ∀ b ∈ items.filter (topmost implies items), ¬ strictly implies b new = true :=
        fun b hb => topmost_iff.1 hnew b (List.mem_filter.1 hb).1
      rw [sweep_of_not_below hjoin, List.filter_filter]
      congr 1
      · apply List.filter_congr
        intro a _
        rw [topmost_concat, Bool.and_comm]
      · simp [topmost_concat_self, hnew]
    · -- An item above the new one may itself have been turned away, but then a topmost one is above both.
      obtain ⟨c, hc, hcnew⟩ := not_topmost_iff.1 hnew
      have hbelow : ∃ b ∈ items.filter (topmost implies items), strictly implies b new = true := by
        obtain ⟨b, hb, htop, hbc⟩ := exists_topmost ht hc
        refine ⟨b, List.mem_filter.2 ⟨hb, htop⟩, ?_⟩
        rcases hbc with rfl | hbc
        · exact hcnew
        · exact strictly_trans ht hbc hcnew
      have hanti : ∀ a ∈ items.filter (topmost implies items),
          ∀ b ∈ items.filter (topmost implies items), ¬ strictly implies a b = true :=
        fun a ha b hb => topmost_iff.1 (List.mem_filter.1 hb).2 a (List.mem_filter.1 ha).1
      rw [sweep_of_below ht hanti hbelow, ← List.filter_append]
      exact (filter_topmost_concat_of_below ht ⟨c, hc, hcnew⟩).symm

end Multimethod.Specificity
