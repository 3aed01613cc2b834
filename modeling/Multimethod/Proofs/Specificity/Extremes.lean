import Multimethod.Proofs.Specificity.Rounds

/-! # Items above or below all others -/

namespace Multimethod.Specificity

variable {α : Type} {implies : α → α → Bool}

/-! ## Above all others -/

theorem sweep_of_above {new : α} {best : List α} (h : ∀ b ∈ best, strictly implies new b = true) :
    sweep implies new best = [new] := by
  rw [sweep_of_not_below fun b hb => strictly_asymm (h b hb)]
  simpa using h

theorem dominators_concat_of_above {items : List α} {new : α}
    (h : ∀ a ∈ items, strictly implies new a = true) :
    dominators implies (items ++ [new]) = [items.length] := by
  have habove : ∀ b ∈ frontier (fun a b : α × Nat => implies a.1 b.1) items.zipIdx,
      strictly (fun a b : α × Nat => implies a.1 b.1) (new, items.length) b = true := by
    intro b hb
    exact h b.1 (List.fst_mem_of_mem_zipIdx (mem_of_mem_frontier hb))
  rw [dominators, List.zipIdx_append, Nat.zero_add, List.zipIdx_singleton, frontier_concat,
    sweep_of_above habove]
  rfl

theorem peel_concat_of_above {items : List α} {new : α}
    (h : ∀ a ∈ items, strictly implies new a = true) :
    peel implies (items ++ [new]) = ([new], items) := by
  have hold : ∀ item ∈ items.zipIdx, item.2 ≠ items.length := fun item hitem =>
    Nat.ne_of_lt (List.snd_lt_of_mem_zipIdx hitem)
  have hnone : items.zipIdx.filter (fun item => [items.length].contains item.2) = [] :=
    List.filter_eq_nil_iff.2 fun item hitem => by simpa using hold item hitem
  have hall : items.zipIdx.filter (not ∘ fun item => [items.length].contains item.2) =
      items.zipIdx := List.filter_eq_self.2 fun item hitem => by simpa using hold item hitem
  rw [peel, dominators_concat_of_above h, List.zipIdx_append, List.partition_eq_filter_filter,
    List.filter_append, List.filter_append, hnone, hall]
  simp

theorem layers_concat_of_above {items : List α} {new : α}
    (h : ∀ a ∈ items, strictly implies new a = true) :
    layers implies (items ++ [new]) = [new] :: layers implies items := by
  rw [layers_of_ne_nil implies (by simp), peel_concat_of_above h]

theorem layers_singleton (implies : α → α → Bool) (a : α) : layers implies [a] = [[a]] := by
  have habove : ∀ b ∈ ([] : List α), strictly implies a b = true := List.forall_mem_nil _
  have hlayers := layers_concat_of_above habove
  rw [layers_nil] at hlayers
  exact hlayers

/-! ## Below all others -/

theorem mem_sweep_or_exists (implies : α → α → Bool) (new : α) (best : List α) :
    new ∈ sweep implies new best ∨ ∃ b ∈ sweep implies new best, strictly implies b new = true := by
  induction best with
  | nil => exact Or.inl (List.mem_singleton_self new)
  | cons old rest ih =>
    rw [sweep]
    split
    · exact ih
    · split
      · next hold => exact Or.inr ⟨old, List.mem_cons_self, hold⟩
      · rcases ih with hmem | ⟨b, hb, hnew⟩
        · exact Or.inl (List.mem_cons_of_mem old hmem)
        · exact Or.inr ⟨b, List.mem_cons_of_mem old hb, hnew⟩

theorem exists_mem_frontier_of_below {items : List α} {last : α}
    (hlast : ∀ b ∈ items, b = last ∨ strictly implies b last = true)
    (h : ∃ b ∈ items, strictly implies b last = true) :
    ∃ b ∈ frontier implies items, strictly implies b last = true := by
  induction items using List.reverseRecOn with
  | nil => simp at h
  | append_singleton items new ih =>
    rw [frontier_concat]
    rcases hlast new (by simp) with rfl | hnew
    · have hitems : ∃ b ∈ items, strictly implies b new = true := by
        simpa [strictly_irrefl] using h
      obtain ⟨c, hc, hcnew⟩ := ih (fun b hb => hlast b (List.mem_append_left _ hb)) hitems
      exact ⟨c, mem_sweep_of_mem hc (strictly_asymm hcnew), hcnew⟩
    · -- The new item joins, or the one that turns it away is above the last one too.
      rcases mem_sweep_or_exists implies new (frontier implies items) with hmem | ⟨b, hb, hbnew⟩
      · exact ⟨new, hmem, hnew⟩
      · have hitem : b ∈ items ++ [new] := by
          rw [← frontier_concat] at hb
          exact mem_of_mem_frontier hb
        refine ⟨b, hb, (hlast b hitem).resolve_left ?_⟩
        rintro rfl
        exact strictly_asymm hnew hbnew

theorem layers_of_below {items : List α} {last : α}
    (hlast : ∀ b ∈ items, b = last ∨ strictly implies b last = true) (hmem : last ∈ items)
    (hdistinct : items.Nodup) : ∃ front, layers implies items = front ++ [[last]] := by
  fun_induction layers implies items with
  | case1 => cases hmem
  | case2 items hne _ ih =>
    have hsub := leftover_sublist implies items
    by_cases h : ∃ b ∈ items, strictly implies b last = true
    · obtain ⟨b, hb, hblast⟩ := exists_mem_frontier_of_below hlast h
      have hout : last ∉ (peel implies items).1 := fun hin =>
        not_strictly_of_mem_frontier implies items b hb last (fst_peel implies items ▸ hin) hblast
      have hleft : last ∈ leftover implies items :=
        (List.mem_append.1 ((perm_peel implies items).mem_iff.2 hmem)).resolve_left hout
      obtain ⟨front, hfront⟩ := ih (fun c hc => hlast c (hsub.subset hc)) hleft (hdistinct.sublist hsub)
      exact ⟨(peel implies items).1 :: front, by rw [hfront, List.cons_append]⟩
    · have hsame : ∀ b ∈ items, b = last := fun b hb =>
        (hlast b hb).resolve_right fun hblast => h ⟨b, hb, hblast⟩
      obtain ⟨n, rfl⟩ : ∃ n, items = List.replicate n last := ⟨_, List.eq_replicate_of_mem hsame⟩
      obtain rfl : n = 1 :=
        Nat.le_antisymm (List.nodup_replicate.1 hdistinct) (Nat.pos_of_ne_zero (by simpa using hne))
      have hpeel : peel implies [last] = ([last], []) := peel_concat_of_above (List.forall_mem_nil _)
      exact ⟨[], by simp [hpeel, layers_nil]⟩

end Multimethod.Specificity
