import Mathlib.Order.Basic
import Mathlib.Order.Monotone.Basic
import Mathlib.Order.Nat
import Multimethod.Proofs.Process.Renaming

/-!
# Programs among others

Other programs take serial numbers away. A program then gets later ones, still in order.
-/

namespace Multimethod.Process

variable {β : Kind → Type}

/-! ## The numbers that a program gets -/

/-- From `own` on, each number of the program alone has its counterpart among those from `next` on, in the
same order. -/
structure Supplies (σ : Nat → Nat) (own next : Nat) : Prop where
  le : ∀ k, own ≤ k → next ≤ σ k
  lt : ∀ j k, own ≤ j → j < k → σ j < σ k

theorem supplies_add (own next : Nat) : Supplies (next + ·) own next where
  le k _ := Nat.le_add_right next k
  lt _ _ _ hjk := Nat.add_lt_add_left hjk next

theorem Supplies.of_le {σ : Nat → Nat} {own next next' : Nat} (h : Supplies σ own next')
    (hle : next ≤ next') : Supplies σ own next where
  le k hk := hle.trans (h.le k hk)
  lt := h.lt

theorem Supplies.update {σ : Nat → Nat} {own next : Nat} (h : Supplies σ (own + 1) (next + 1)) :
    Supplies (Function.update σ own next) own next where
  le k hk := by
    rcases hk.eq_or_lt with rfl | hlt
    · rw [Function.update_self]
    · rw [Function.update_of_ne hlt.ne']
      exact (Nat.le_succ next).trans (h.le k hlt)
  lt j k hj hjk := by
    rw [Function.update_of_ne (hj.trans_lt hjk).ne']
    rcases hj.eq_or_lt with rfl | hlt
    · rw [Function.update_self]
      exact h.le k hjk
    · rw [Function.update_of_ne hlt.ne']
      exact h.lt j k hlt hjk

theorem Supplies.strictMono {σ : Nat → Nat} {next : Nat} (h : Supplies σ 0 next) : StrictMono σ :=
  fun j k hjk => h.lt j k (Nat.zero_le j) hjk

/-! ## Shared runs -/

section

variable {τ : Nat → Nat} (hτ : Function.Injective τ) {p : Process β} {instruction : Instruction β}

include hτ

theorem execute_rename_of_next_eq (h : (p.execute instruction).2.realm.next = p.realm.next)
    (next : Nat) :
    ((p.rename τ).counting next).execute instruction =
      Prod.map (·.rename τ) (fun p' => (p'.rename τ).counting next) (p.execute instruction) := by
  have hsame : ((p.rename τ).execute instruction).2.realm.next = (p.rename τ).realm.next := by
    rw [execute_rename hτ, Prod.map_snd, h, Nat.sub_self]
    rfl
  rw [execute_counting hsame, execute_rename hτ]
  rfl

theorem execute_rename_of_next_eq_succ
    (h : (p.execute instruction).2.realm.next = p.realm.next + 1) :
    ((p.rename τ).counting (τ p.realm.next)).execute instruction = Prod.map (·.rename τ)
      (fun p' => (p'.rename τ).counting (τ p.realm.next + 1)) (p.execute instruction) := by
  have hself : (p.rename τ).counting (τ p.realm.next) = p.rename τ := rfl
  rw [hself, execute_rename hτ, Prod.map, Prod.map, h, Nat.add_sub_cancel_left]

end

/-- Whatever the others do, the program gets its numbers in order, and its readings are those that it has
alone. -/
theorem exists_supplies_share (schedule : List (Instruction β ⊕ Instruction β))
    (p others : Process β) :
    ∃ σ, Supplies σ p.realm.next others.realm.next ∧
      ∀ τ : Nat → Nat, Function.Injective τ → (∀ k, p.realm.next ≤ k → τ k = σ k) →
        ((p.rename τ).counting others.realm.next).share others schedule =
          (p.executeAll (schedule.filterMap Sum.getLeft?)).1.map (·.rename τ) := by
  -- The numbers are found from the end: the rest of the schedule fixes those after the next one, and any
  -- renaming that agrees with them there will do, so that no tag drawn before has to change.
  induction schedule generalizing p others with
  | nil => exact ⟨_, supplies_add p.realm.next others.realm.next, fun _ _ _ => rfl⟩
  | cons instruction rest ih =>
    cases instruction with
    | inr instruction =>
      obtain ⟨σ, hσ, hreadings⟩ := ih p (others.execute instruction).2
      refine ⟨σ, hσ.of_le ?_, fun τ hτ hsame => hreadings τ hτ hsame⟩
      rcases others.next_execute instruction with h | h <;> omega
    | inl instruction =>
      rw [List.filterMap_cons, Sum.getLeft?_inl]
      rcases p.next_execute instruction with hnext | hnext
      · -- No number is taken, so it does not matter which one the others left.
        obtain ⟨σ, hσ, hreadings⟩ := ih (p.execute instruction).2 others
        refine ⟨σ, hnext ▸ hσ, fun τ hτ hsame => ?_⟩
        simp only [share, execute_rename_of_next_eq hτ hnext, executeAll, List.map_cons]
        rw [← hreadings τ hτ (hnext ▸ hsame)]
        rfl
      · obtain ⟨σ, hσ, hreadings⟩ :=
          ih (p.execute instruction).2 (others.counting (others.realm.next + 1))
        rw [hnext] at hσ
        refine ⟨_, hσ.update, fun τ hτ hsame => ?_⟩
        have hfirst : others.realm.next = τ p.realm.next := by
          rw [hsame _ (Nat.le_refl _), Function.update_self]
        have hlater : ∀ k, (p.execute instruction).2.realm.next ≤ k → τ k = σ k := by
          intro k hk
          rw [hnext] at hk
          rw [hsame k (by omega), Function.update_of_ne (by omega)]
        rw [hfirst] at hreadings ⊢
        simp only [share, execute_rename_of_next_eq_succ hτ hnext, executeAll, List.map_cons]
        rw [← hreadings τ hτ hlater]
        rfl

/-! ## Any start, any others -/

theorem executeAll_start (next : Nat) (program : List (Instruction β)) :
    ((start next).executeAll program).1 =
      ((start 0).executeAll program).1.map (·.rename (next + ·)) := by
  have hinjective : Function.Injective (next + ·) := fun _ _ => Nat.add_left_cancel
  have h := executeAll_rename hinjective (fun _ => rfl) (start 0) program
  exact congrArg Prod.fst h

/-- Wherever its serial numbers start, and whatever others declare before it and between its own
declarations, a program reads the same. -/
theorem readings_correspond (program : List (Instruction β)) :
    (∀ m n : Nat, Reading.Correspond (m + ·) (n + ·) ((start m).executeAll program).1
      ((start n).executeAll program).1) ∧
    ∀ (m : Nat) (others : Process β) (schedule : List (Instruction β ⊕ Instruction β)),
      schedule.filterMap Sum.getLeft? = program →
      ∃ σ : Nat → Nat, StrictMono σ ∧ Reading.Correspond (m + ·) σ ((start m).executeAll program).1
        ((start others.realm.next).share others schedule) := by
  refine ⟨fun m n => Reading.correspond_of_eq_map (executeAll_start m program) (executeAll_start n program),
    fun m others schedule hprogram => ?_⟩
  obtain ⟨σ, hσ, hreadings⟩ := exists_supplies_share schedule (start 0) others
  refine ⟨σ, hσ.strictMono, Reading.correspond_of_eq_map (executeAll_start m program) ?_⟩
  rw [← hprogram]
  exact hreadings σ hσ.strictMono.injective fun _ _ => rfl

theorem readings_correspond_namesakes :
    let program : List (Instruction fun _ => Unit) :=
      [.createHierarchy (some "Object"), .define 0 "Text" [], .createFunction "f" 1 {},
        .register 0 [⟨0, "Object"⟩] .leaf (), .effective 0 [⟨0, "Text"⟩]]
    let others : Process fun _ => Unit := start 5
    let schedule : List (Instruction (fun _ => Unit) ⊕ Instruction fun _ => Unit) :=
      [.inr (.createHierarchy none), .inr (.define 0 "Object" []),
        .inl (.createHierarchy (some "Object")), .inr (.define 0 "Text" []),
        .inl (.define 0 "Text" []), .inl (.createFunction "f" 1 {}),
        .inl (.register 0 [⟨0, "Object"⟩] .leaf ()), .inl (.effective 0 [⟨0, "Text"⟩])]
    schedule.filterMap Sum.getLeft? = program ∧
    ((start 1).executeAll program).1.map Reading.texts =
      [["Object"], ["Text"], ["GenericFunction(f)"],
        ["DEBUG registered method operation=f signature=(Object) kind=Leaf dropped=0"],
        ["Leaf(Object)", "DEBUG computed effective method operation=f signature=(Text) " ++
          "candidates=1 layers=1 chain=Leaf(Object)"]] ∧
    ((start 5).share others schedule).map Reading.texts =
      ((start 1).executeAll program).1.map Reading.texts := by
  intro program others schedule
  obtain ⟨σ, -, readings, -, -, htexts⟩ := (readings_correspond program).2 1 others schedule rfl
  exact ⟨rfl, by decide +kernel, htexts.symm⟩

end Multimethod.Process
