/-!
# The most specific items of a list

A relation `implies a b` reads "`a` is at least as specific as `b`". It may be neither reflexive nor
transitive.
-/

namespace Multimethod.Specificity

variable {α : Type}

def strictly (implies : α → α → Bool) (a b : α) : Bool := implies a b && !implies b a

/-! ## One new item -/

/-- Carries a new item along the frontier. It drops the members strictly below it, and the first
member strictly above it turns it away; an item that reaches the end joins there. -/
def sweep (implies : α → α → Bool) (new : α) : List α → List α
  | [] => [new]
  | old :: rest =>
    if strictly implies new old then sweep implies new rest
    else if strictly implies old new then old :: rest
    else old :: sweep implies new rest

theorem sweep_ne_nil (implies : α → α → Bool) (new : α) (best : List α) :
    sweep implies new best ≠ [] := by
  induction best with
  | nil => simp [sweep]
  | cons old rest ih =>
    rw [sweep]
    split
    · exact ih
    · split <;> simp

theorem mem_of_mem_sweep {implies : α → α → Bool} {new x : α} {best : List α}
    (h : x ∈ sweep implies new best) : x = new ∨ x ∈ best := by
  induction best with
  | nil => simpa [sweep] using h
  | cons old rest ih =>
    rw [sweep] at h
    split at h
    · exact (ih h).imp_right (List.mem_cons_of_mem _)
    · split at h
      · exact Or.inr h
      · rcases List.mem_cons.1 h with rfl | h
        · exact Or.inr List.mem_cons_self
        · exact (ih h).imp_right (List.mem_cons_of_mem _)

/-! ## The whole list -/

/-- The items left when each in turn has been carried along the frontier of those before it. -/
def frontier (implies : α → α → Bool) (items : List α) : List α :=
  items.foldl (fun best new => sweep implies new best) []

theorem frontier_concat (implies : α → α → Bool) (items : List α) (new : α) :
    frontier implies (items ++ [new]) = sweep implies new (frontier implies items) := by
  simp [frontier]

theorem frontier_ne_nil (implies : α → α → Bool) {items : List α} (h : items ≠ []) :
    frontier implies items ≠ [] := by
  rw [← List.dropLast_concat_getLast h, frontier_concat]
  exact sweep_ne_nil _ _ _

theorem mem_of_mem_foldl_sweep {implies : α → α → Bool} {x : α} (items : List α) (best : List α)
    (h : x ∈ items.foldl (fun best new => sweep implies new best) best) : x ∈ items ∨ x ∈ best := by
  induction items generalizing best with
  | nil => exact Or.inr h
  | cons new rest ih =>
    rcases ih _ h with h | h
    · exact Or.inl (List.mem_cons_of_mem _ h)
    · rcases mem_of_mem_sweep h with rfl | h
      · exact Or.inl List.mem_cons_self
      · exact Or.inr h

theorem mem_of_mem_frontier {implies : α → α → Bool} {x : α} {items : List α}
    (h : x ∈ frontier implies items) : x ∈ items := by
  simpa using mem_of_mem_foldl_sweep items [] h

/-- The positions of the frontier, in the order of the list. -/
def dominators (implies : α → α → Bool) (items : List α) : List Nat :=
  (frontier (fun a b => implies a.1 b.1) items.zipIdx).map (·.2)

end Multimethod.Specificity
