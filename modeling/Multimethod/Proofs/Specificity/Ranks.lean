import Mathlib.Data.List.Chain
import Mathlib.Order.Bounds.Basic
import Multimethod.Proofs.Specificity.Layers

/-!
# Layers are ranks

The rank of an item is the number of items above it in the longest strict chain that ends in it. One peel
takes the first item off every chain, so it lowers the ranks of what remains by one.
-/

namespace Multimethod.Specificity

variable {α : Type} {implies : α → α → Bool} {items : List α} {a b : α} {m n : Nat}

/-! ## Strict chains -/

/-- Items of the list, each strictly above the next. -/
structure Falls (implies : α → α → Bool) (items chain : List α) : Prop where
  mem : ∀ a ∈ chain, a ∈ items
  strict : chain.IsChain fun a b => strictly implies a b = true

/-- The longest strict chain that ends in `a` has `n` items above it. -/
def IsRank (implies : α → α → Bool) (items : List α) (a : α) (n : Nat) : Prop :=
  IsGreatest {n | ∃ above, Falls implies items (above ++ [a]) ∧ above.length = n} n

/-- The longest strict chain has `n` items. -/
def IsHeight (implies : α → α → Bool) (items : List α) (n : Nat) : Prop :=
  IsGreatest {n | ∃ chain, Falls implies items chain ∧ chain.length = n} n

theorem falls_concat {chain : List α} :
    Falls implies items (chain ++ [a]) ↔ Falls implies items chain ∧ a ∈ items ∧
      ∀ b ∈ chain.getLast?, strictly implies b a = true := by
  constructor
  · rintro ⟨hmem, hstrict⟩
    obtain ⟨hchain, -, hlast⟩ := List.isChain_append.1 hstrict
    exact ⟨⟨fun b hb => hmem b (List.mem_append_left _ hb), hchain⟩, hmem a (by simp),
      fun b hb => hlast b hb a rfl⟩
  · rintro ⟨⟨hmem, hchain⟩, ha, hlast⟩
    refine ⟨List.forall_mem_append.2 ⟨hmem, List.forall_mem_singleton.2 ha⟩, ?_⟩
    refine List.isChain_append.2 ⟨hchain, List.isChain_singleton a, ?_⟩
    rintro b hb _ ⟨⟩
    exact hlast b hb

theorem IsRank.mem (h : IsRank implies items a n) : a ∈ items := by
  obtain ⟨⟨above, hfalls, -⟩, -⟩ := h
  exact (falls_concat.1 hfalls).2.1

/-! ## One peel shortens every chain -/

theorem Falls.tail {chain : List α} (h : Falls implies items (b :: chain)) :
    Falls implies (items.filter fun a => !topmost implies items a) chain := by
  refine ⟨?_, h.strict.tail⟩
  induction chain generalizing b with
  | nil => simp
  | cons c rest ih =>
    obtain ⟨hbc, hrest⟩ := List.isChain_cons_cons.1 h.strict
    have hc : ¬ topmost implies items c = true :=
      not_topmost_iff.2 ⟨b, h.mem b List.mem_cons_self, hbc⟩
    refine List.forall_mem_cons.2 ⟨List.mem_filter.2 ⟨h.mem c (by simp), by simpa using hc⟩, ?_⟩
    exact ih ⟨fun d hd => h.mem d (List.mem_cons_of_mem _ hd), hrest⟩

theorem Falls.exists_cons {chain : List α} (hne : items ≠ [])
    (h : Falls implies (items.filter fun a => !topmost implies items a) chain) :
    ∃ b, Falls implies items (b :: chain) := by
  have hmem : ∀ c ∈ chain, c ∈ items := fun c hc => (List.mem_filter.1 (h.mem c hc)).1
  cases chain with
  | nil =>
    obtain ⟨b, hb⟩ := List.exists_mem_of_ne_nil items hne
    exact ⟨b, by simpa using hb, List.isChain_singleton b⟩
  | cons c rest =>
    -- What remains after a peel is not topmost, so there is an item to put in front of the chain.
    have hc : ¬ topmost implies items c = true := by
      simpa using (List.mem_filter.1 (h.mem c List.mem_cons_self)).2
    obtain ⟨b, hb, hbc⟩ := not_topmost_iff.1 hc
    exact ⟨b, List.forall_mem_cons.2 ⟨hb, hmem⟩, List.isChain_cons_cons.2 ⟨hbc, h.strict⟩⟩

theorem isRank_zero (ha : a ∈ items) (htop : topmost implies items a = true) :
    IsRank implies items a 0 := by
  refine ⟨⟨[], ⟨by simpa using ha, List.isChain_singleton a⟩, rfl⟩, ?_⟩
  rintro _ ⟨above, hfalls, rfl⟩
  cases above with
  | nil => exact Nat.le_refl 0
  | cons b rest =>
    have hrest := hfalls.tail.mem a (by simp)
    simp [htop] at hrest

theorem isRank_succ (h : IsRank implies (items.filter fun a => !topmost implies items a) a n) :
    IsRank implies items a (n + 1) := by
  have hne : items ≠ [] := List.ne_nil_of_mem (List.mem_filter.1 h.mem).1
  obtain ⟨⟨above, hfalls, rfl⟩, hmax⟩ := h
  obtain ⟨b, hb⟩ := hfalls.exists_cons hne
  refine ⟨⟨b :: above, hb, rfl⟩, ?_⟩
  rintro _ ⟨higher, hhigher, rfl⟩
  cases higher with
  | nil => exact Nat.zero_le _
  | cons c rest => exact Nat.succ_le_succ (hmax ⟨rest, hhigher.tail, rfl⟩)

theorem isHeight_nil (implies : α → α → Bool) : IsHeight implies [] 0 := by
  refine ⟨⟨[], ⟨by simp, List.isChain_nil⟩, rfl⟩, ?_⟩
  rintro _ ⟨chain, hfalls, rfl⟩
  rw [List.eq_nil_iff_forall_not_mem.2 fun a ha => List.not_mem_nil (hfalls.mem a ha)]
  exact Nat.le_refl 0

theorem isHeight_succ (hne : items ≠ [])
    (h : IsHeight implies (items.filter fun a => !topmost implies items a) n) :
    IsHeight implies items (n + 1) := by
  obtain ⟨⟨chain, hfalls, rfl⟩, hmax⟩ := h
  obtain ⟨b, hb⟩ := hfalls.exists_cons hne
  refine ⟨⟨b :: chain, hb, rfl⟩, ?_⟩
  rintro _ ⟨longer, hlonger, rfl⟩
  cases longer with
  | nil => exact Nat.zero_le _
  | cons c rest => exact Nat.succ_le_succ (hmax ⟨rest, hlonger.tail, rfl⟩)

/-! ## Ranks side by side -/

theorem IsRank.exists_above (h : IsRank implies items a (n + 1)) :
    ∃ b, IsRank implies items b n ∧ strictly implies b a = true := by
  obtain ⟨⟨above, hfalls, hlength⟩, hmax⟩ := h
  have hne : above ≠ [] := by
    rintro rfl
    cases hlength
  obtain ⟨higher, b, rfl⟩ := (List.eq_nil_or_concat' above).resolve_left hne
  obtain ⟨hb, ha, hba⟩ := falls_concat.1 hfalls
  have hba : strictly implies b a = true := hba b (by simp)
  -- A longer chain that ends in `b` would go on to a longer one that ends in `a`.
  refine ⟨b, ⟨⟨higher, hb, by simpa using hlength⟩, ?_⟩, hba⟩
  rintro _ ⟨other, hother, rfl⟩
  have hlonger : Falls implies items ((other ++ [b]) ++ [a]) :=
    falls_concat.2 ⟨hother, ha, by simpa using hba⟩
  have := hmax ⟨other ++ [b], hlonger, rfl⟩
  simpa using this

theorem IsRank.le_of_implies (ht : Transitive implies) (ha : IsRank implies items a m)
    (hb : IsRank implies items b n) (hba : implies b a = true) : n ≤ m := by
  obtain ⟨⟨above, hfalls, rfl⟩, -⟩ := hb
  obtain ⟨hchain, -, hlast⟩ := falls_concat.1 hfalls
  refine ha.2 ⟨above, falls_concat.2 ⟨hchain, ha.mem, fun c hc => ?_⟩, rfl⟩
  obtain ⟨hcb, hbc⟩ := strictly_iff.1 (hlast c hc)
  exact strictly_iff.2 ⟨ht hcb hba, fun hac => hbc (ht hba hac)⟩

/-! ## The layers -/

theorem exists_rank (ht : Transitive implies) (items : List α) :
    ∃ rank : α → Nat, (∀ a ∈ items, IsRank implies items a (rank a)) ∧
      IsHeight implies items (layers implies items).length ∧
      layers implies items =
        (List.range (layers implies items).length).map fun k => items.filter (rank · = k) := by
  fun_induction layers implies items with
  | case1 => exact ⟨fun _ => 0, by simp, isHeight_nil implies, rfl⟩
  | case2 items hne _ ih =>
    rw [peel_eq ht] at ih ⊢
    obtain ⟨rank, hrank, hheight, hlayers⟩ := ih
    -- The topmost items stood in front of every chain, so all other ranks go up by one.
    refine ⟨fun a => if topmost implies items a then 0 else rank a + 1, ?_,
      isHeight_succ hne hheight, ?_⟩
    · intro a ha
      by_cases htop : topmost implies items a = true
      · simpa [htop] using isRank_zero ha htop
      · simpa [htop] using isRank_succ (hrank a (List.mem_filter.2 ⟨ha, by simpa using htop⟩))
    · rw [List.length_cons, List.range_succ_eq_map, List.map_cons, List.map_map]
      congr 1
      · apply List.filter_congr
        intro a _
        by_cases htop : topmost implies items a = true <;> simp [htop]
      · refine hlayers.trans (List.map_congr_left fun k _ => ?_)
        rw [List.filter_filter]
        apply List.filter_congr
        intro a _
        by_cases htop : topmost implies items a = true <;> simp [htop]

/-- Every item stands in the layer that its rank numbers, and no item implies one of an earlier
layer. -/
theorem layers_eq_ranks (ht : Transitive implies) (items : List α) :
    let found := layers implies items
    ∃ rank : α → Nat,
      (∀ a ∈ items, IsRank implies items a (rank a) ∧ rank a < found.length) ∧
      found = (List.range found.length).map (fun k => items.filter (rank · = k)) ∧
      found.flatten.Perm items ∧
      IsHeight implies items found.length ∧
      (∀ k layer next, found[k]? = some layer → found[k + 1]? = some next →
        ∀ a ∈ next, ∃ b ∈ layer, strictly implies b a = true) ∧
      found.Pairwise fun earlier later => ∀ a ∈ earlier, ∀ b ∈ later, ¬ implies b a = true := by
  intro found
  obtain ⟨rank, hrank, hheight, hlayers⟩ := exists_rank ht items
  have hperm : found.flatten.Perm items := perm_flatten_layers implies items
  have hlayer : ∀ k layer, found[k]? = some layer →
      k < found.length ∧ layer = items.filter (rank · = k) := by
    intro k layer hk
    obtain ⟨hlt, rfl⟩ := List.getElem?_eq_some_iff.1 hk
    refine ⟨hlt, ?_⟩
    rw [List.getElem_of_eq hlayers hlt, List.getElem_map, List.getElem_range]
  have hbelow : ∀ a ∈ items, rank a < found.length := by
    intro a ha
    obtain ⟨layer, hmem, halayer⟩ := List.mem_flatten.1 (hperm.mem_iff.2 ha)
    obtain ⟨k, hk⟩ := List.mem_iff_getElem?.1 hmem
    obtain ⟨hlt, rfl⟩ := hlayer k layer hk
    obtain rfl : rank a = k := by simpa [ha] using halayer
    exact hlt
  refine ⟨rank, fun a ha => ⟨hrank a ha, hbelow a ha⟩, hlayers, hperm, hheight, ?_, ?_⟩
  · intro k layer next hk hnext a ha
    obtain ⟨-, rfl⟩ := hlayer k layer hk
    obtain ⟨-, rfl⟩ := hlayer (k + 1) next hnext
    obtain ⟨ha, hak⟩ : a ∈ items ∧ rank a = k + 1 := by simpa using ha
    obtain ⟨b, hb, hba⟩ := (hak ▸ hrank a ha).exists_above
    have hbk : rank b = k := (hrank b hb.mem).unique hb
    exact ⟨b, by simpa using ⟨hb.mem, hbk⟩, hba⟩
  · rw [show found = _ from hlayers, List.pairwise_map]
    refine List.pairwise_lt_range.imp fun {i j} hij a ha b hb hba => ?_
    obtain ⟨hai, hi⟩ : a ∈ items ∧ rank a = i := by simpa using ha
    obtain ⟨hbj, hj⟩ : b ∈ items ∧ rank b = j := by simpa using hb
    have := (hrank a hai).le_of_implies ht (hrank b hbj) hba
    omega

theorem layers_eq_ranks_multiples :
    let items := [6, 7, -2, 30, 10, 2, 6]
    Transitive multiple ∧ layers multiple items = [[7, 30], [6, 10, 6], [-2, 2]] ∧
      IsHeight multiple items 3 ∧
      ∃ rank : Int → Nat, (∀ a ∈ items, IsRank multiple items a (rank a) ∧ rank a < 3) ∧
        layers multiple items = (List.range 3).map fun k => items.filter (rank · = k) := by
  intro items
  have hlayers : layers multiple items = [[7, 30], [6, 10, 6], [-2, 2]] := by decide +kernel
  have hlength : (layers multiple items).length = 3 := congrArg List.length hlayers
  obtain ⟨rank, hrank, heq, -, hheight, -⟩ := layers_eq_ranks transitive_multiple items
  simp only [hlength] at hrank heq hheight
  exact ⟨transitive_multiple, hlayers, hheight, rank, hrank, heq⟩

end Multimethod.Specificity
