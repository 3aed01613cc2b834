import Multimethod.Proofs.Function.Attempts

/-!
# Threads that share a function

A registration or a lookup is one step, and no other thread comes in between.
-/

namespace Multimethod

variable {T : Type} {β : Kind → Type}

/-! ## Interleavings -/

/-- The steps of all threads in one order, each with the number of its thread. What a thread has still to
do is taken from the front. -/
inductive Interleaves {α : Type} : List (List α) → List (Nat × α) → Prop where
  | done {threads : List (List α)} (h : ∀ thread ∈ threads, thread = []) : Interleaves threads []
  | step {threads : List (List α)} {schedule : List (Nat × α)} {i : Nat} {a : α} {rest : List α}
    (hi : threads[i]? = some (a :: rest)) (h : Interleaves (threads.set i rest) schedule) :
    Interleaves threads ((i, a) :: schedule)

namespace Interleaves

variable {α : Type} {threads : List (List α)} {schedule : List (Nat × α)}

theorem perm_flatten_set {i : Nat} {a : α} {rest : List α} (h : threads[i]? = some (a :: rest)) :
    (a :: (threads.set i rest).flatten).Perm threads.flatten := by
  induction threads generalizing i with
  | nil => cases h
  | cons thread others ih =>
    cases i with
    | zero =>
      obtain rfl : thread = a :: rest := by simpa using h
      exact .refl _
    | succ i =>
      rw [List.set_cons_succ, List.flatten_cons, List.flatten_cons]
      exact List.perm_middle.symm.trans ((ih h).append_left thread)

theorem perm (h : Interleaves threads schedule) : (schedule.map (·.2)).Perm threads.flatten := by
  induction h with
  | done h =>
    rw [List.flatten_eq_nil_iff.2 h]
    exact .nil
  | step hi _ ih => exact (ih.cons _).trans (perm_flatten_set hi)

theorem of_thread (h : Interleaves threads schedule) (i : Nat) :
    (schedule.filter (·.1 = i)).map (·.2) = threads[i]?.getD [] := by
  induction h with
  | @done threads h =>
    cases hi : threads[i]? with
    | none => rfl
    | some thread => exact (h thread (List.mem_of_getElem? hi)).symm
  | @step threads schedule j a rest hj _ ih =>
    by_cases hij : j = i
    · subst hij
      have hlt := (List.getElem?_eq_some_iff.1 hj).1
      simpa [hj, List.getElem?_set_self hlt] using ih
    · simpa [hij, List.getElem?_set_ne hij] using ih

end Interleaves

/-! ## Steps of a thread -/

inductive Operation (T : Type) (β : Kind → Type) where
  | register (m : Method T β)
  | lookup (concrete : Signature T)

namespace Operation

inductive Answer (T : Type) (β : Kind → Type) where
  | registered (outcome : Except (RegistrationError T) Unit)
  | found (chain : Chain T β)

def attempted? : Operation T β → Option (Signature T)
  | register m => some m.signature
  | lookup _ => none

def asked? : Operation T β → Option (Signature T)
  | lookup concrete => some concrete
  | register _ => none

end Operation

structure Performed (T : Type) (β : Kind → Type) where
  thread : Nat
  operation : Operation T β
  answer : Operation.Answer T β

namespace Performed

def turn (r : Performed T β) : Turn T β :=
  match r.operation, r.answer with
  | .register m, .registered (.ok _) => .joined m
  | .register m, _ => .refused m
  | .lookup concrete, _ => .asked concrete

theorem attempted?_turn (r : Performed T β) :
    r.turn.attempt?.map (·.signature) = r.operation.attempted? := by
  obtain ⟨thread, _ | _, ⟨_ | _⟩ | _⟩ := r <;> rfl

theorem asked?_turn (r : Performed T β) : r.turn.asked? = r.operation.asked? := by
  obtain ⟨thread, _ | _, ⟨_ | _⟩ | _⟩ := r <;> rfl

def joined (records : List (Performed T β)) : List (Method T β) :=
  records.filterMap fun r => r.turn.joined?

theorem joined_cons (r : Performed T β) (records : List (Performed T β)) :
    joined (r :: records) = [r.turn].filterMap Turn.joined? ++ joined records := by
  rw [← List.singleton_append, joined, List.filterMap_append, joined]
  rfl

def seenBy (thread : Nat) (records : List (Performed T β)) :
    List (Operation T β × Operation.Answer T β) :=
  (records.filter (·.thread = thread)).map fun r => (r.operation, r.answer)

end Performed

namespace GenericFunction

variable [DecidableEq T] [Descriptor T] {g₀ g : GenericFunction T β} {past : List (Turn T β)}

def perform (g : GenericFunction T β) :
    Operation T β → Operation.Answer T β × GenericFunction T β
  | .register m => (.registered (g.register m).answer, (g.register m).function)
  | .lookup concrete => (.found (g.lookup concrete).answer, (g.lookup concrete).function)

def performAll : GenericFunction T β → List (Nat × Operation T β) →
    List (Performed T β) × GenericFunction T β
  | g, [] => ([], g)
  | g, (thread, operation) :: rest =>
    let (answer, g') := g.perform operation
    let (records, g'') := g'.performAll rest
    (⟨thread, operation, answer⟩ :: records, g'')

theorem performAll_cons (g : GenericFunction T β) (thread : Nat) (operation : Operation T β)
    (rest : List (Nat × Operation T β)) :
    g.performAll ((thread, operation) :: rest) =
      (⟨thread, operation, (g.perform operation).1⟩ :: ((g.perform operation).2.performAll rest).1,
        ((g.perform operation).2.performAll rest).2) := rfl

/-! ## Runs are turns -/

theorem Becomes.perform (h : g₀.Becomes past g) (thread : Nat) (operation : Operation T β) :
    g₀.Becomes (past ++ [Performed.turn ⟨thread, operation, (g.perform operation).1⟩])
      (g.perform operation).2 := by
  cases operation with
  | lookup concrete => exact h.asked concrete
  | register m =>
    by_cases hm : m.signature ∈ g.signatures
    · simpa [GenericFunction.perform, answer_register_of_mem hm, Performed.turn] using h.refused hm
    · simpa [GenericFunction.perform, (register_eq_ok_iff g m).2 hm, Performed.turn] using h.joined hm

theorem Becomes.performAll (h : g₀.Becomes past g) (schedule : List (Nat × Operation T β)) :
    g₀.Becomes (past ++ (g.performAll schedule).1.map Performed.turn) (g.performAll schedule).2 := by
  induction schedule generalizing past g with
  | nil =>
    rw [GenericFunction.performAll, List.map_nil, List.append_nil]
    exact h
  | cons item rest ih =>
    have hrest := ih (h.perform item.1 item.2)
    rwa [List.append_assoc] at hrest

theorem schedule_performAll (g : GenericFunction T β) (schedule : List (Nat × Operation T β)) :
    (g.performAll schedule).1.map (fun r => (r.thread, r.operation)) = schedule := by
  induction schedule generalizing g with
  | nil => rfl
  | cons item rest ih => exact congrArg (item :: ·) (ih _)

theorem operations_performAll (g : GenericFunction T β) (schedule : List (Nat × Operation T β)) :
    (g.performAll schedule).1.map (·.operation) = schedule.map (·.2) := by
  conv => rhs; rw [← schedule_performAll g schedule, List.map_map]
  rfl

theorem attempted_performAll (g : GenericFunction T β) (schedule : List (Nat × Operation T β)) :
    Turn.attempted ((g.performAll schedule).1.map Performed.turn) =
      (schedule.map (·.2)).filterMap Operation.attempted? := by
  rw [← operations_performAll g, List.filterMap_map, Turn.attempted, Turn.attempts,
    List.map_filterMap, List.filterMap_map]
  exact List.filterMap_congr fun r _ => r.attempted?_turn

theorem asked_performAll (g : GenericFunction T β) (schedule : List (Nat × Operation T β)) :
    ((g.performAll schedule).1.map Performed.turn).filterMap Turn.asked? =
      (schedule.map (·.2)).filterMap Operation.asked? := by
  rw [← operations_performAll g, List.filterMap_map, List.filterMap_map]
  exact List.filterMap_congr fun r _ => r.asked?_turn

theorem methods_performAll (g : GenericFunction T β) (schedule : List (Nat × Operation T β)) :
    (g.performAll schedule).2.methods = g.methods ++ Performed.joined (g.performAll schedule).1 := by
  have h := (Becomes.start.performAll schedule : g.Becomes _ _).methods_eq
  rw [List.nil_append, List.filterMap_map] at h
  exact h

end GenericFunction

end Multimethod
