import Multimethod.Proofs.Function.Epochs

/-! # Attempts to add a method -/

namespace Multimethod

variable {T : Type} {β : Kind → Type}

namespace Turn

def attempt? : Turn T β → Option (Method T β)
  | joined m => some m
  | refused m => some m
  | asked _ => none

def attempts (past : List (Turn T β)) : List (Method T β) := past.filterMap attempt?

def attempted (past : List (Turn T β)) : List (Signature T) := (attempts past).map (·.signature)

theorem attempts_append (past more : List (Turn T β)) :
    attempts (past ++ more) = attempts past ++ attempts more := List.filterMap_append

theorem attempted_append (past more : List (Turn T β)) :
    attempted (past ++ more) = attempted past ++ attempted more := by
  rw [attempted, attempts_append, List.map_append]
  rfl

end Turn

namespace GenericFunction

variable [DecidableEq T] {g₀ g : GenericFunction T β} {past : List (Turn T β)}

/-! ## What a registration gives -/

theorem register_eq_ok_iff (g : GenericFunction T β) (m : Method T β) :
    (g.register m).answer = .ok () ↔ m.signature ∉ g.signatures := by
  by_cases hmem : m.signature ∈ g.signatures <;> simp [register, hmem]

theorem answer_register_of_mem {m : Method T β} (h : m.signature ∈ g.signatures) :
    (g.register m).answer = .error ⟨g.name, m.signature⟩ := by
  simp [register, h]

theorem nodup_signatures_register (hg : g.signatures.Nodup) (m : Method T β) :
    (g.register m).function.signatures.Nodup := by
  by_cases hmem : m.signature ∈ g.signatures
  · rw [function_register_of_mem hmem]
    exact hg
  · rw [signatures, methods_register_of_not_mem hmem, List.map_append, List.map_singleton,
      ← List.concat_eq_append]
    exact hg.concat hmem

/-! ## The first attempt -/

/-- The methods are the first ones offered under each signature, and the next attempt succeeds if its
signature is new. -/
structure FirstWins (g : GenericFunction T β) (past : List (Turn T β)) : Prop where
  signatures : g.signatures = (Turn.attempted past).eraseDups
  stored : ∀ signature, g.methods.find? (·.signature = signature) =
    (Turn.attempts past).find? (·.signature = signature)
  succeeds_iff : ∀ m, (g.register m).answer = .ok () ↔ m.signature ∉ Turn.attempted past
  joins : ∀ m, (g.register m).answer = .ok () →
    (g.register m).function.methods = g.methods ++ [m] ∧ (g.register m).function.cache = []
  refuses : ∀ m e, (g.register m).answer = .error e →
    e = ⟨g.name, m.signature⟩ ∧ (g.register m).function = g

theorem eraseDups_concat {α : Type} [DecidableEq α] (items : List α) (a : α) :
    (items ++ [a]).eraseDups = if a ∈ items then items.eraseDups else items.eraseDups ++ [a] := by
  rw [List.eraseDups_append]
  by_cases hmem : a ∈ items <;> simp [List.removeAll, hmem, List.eraseDups_cons]

variable [Descriptor T]

theorem Becomes.signatures_eq (h : g₀.Becomes past g) (hempty : g₀.methods = []) :
    g.signatures = (Turn.attempted past).eraseDups := by
  induction h with
  | start => simp [GenericFunction.signatures, hempty, Turn.attempted, Turn.attempts]
  | @joined past g h m hm ih =>
    have hnew : m.signature ∉ Turn.attempted past := by
      rwa [ih, List.mem_eraseDups] at hm
    rw [Turn.attempted_append, show Turn.attempted [Turn.joined m] = [m.signature] from rfl,
      eraseDups_concat, if_neg hnew, ← ih, GenericFunction.signatures,
      methods_register_of_not_mem hm, List.map_append]
    rfl
  | @refused past g h m hm ih =>
    rw [function_register_of_mem hm]
    rw [ih, List.mem_eraseDups] at hm
    rw [Turn.attempted_append, show Turn.attempted [Turn.refused m] = [m.signature] from rfl,
      eraseDups_concat, if_pos hm, ih]
  | @asked past g h concrete ih =>
    rw [Turn.attempted_append, show Turn.attempted [Turn.asked (β := β) concrete] = [] from rfl,
      List.append_nil, ← ih, GenericFunction.signatures, methods_lookup]
    rfl

theorem Becomes.mem_signatures_iff (h : g₀.Becomes past g) (hempty : g₀.methods = [])
    {signature : Signature T} : signature ∈ g.signatures ↔ signature ∈ Turn.attempted past := by
  rw [h.signatures_eq hempty, List.mem_eraseDups]

theorem Becomes.nodup_signatures (h : g₀.Becomes past g) (hempty : g₀.methods = []) :
    g.signatures.Nodup := by
  induction h with
  | start => simp [GenericFunction.signatures, hempty]
  | @joined _ _ _ m _ ih | @refused _ _ _ m _ ih => exact nodup_signatures_register ih m
  | asked _ concrete ih =>
    rw [GenericFunction.signatures, methods_lookup]
    exact ih

theorem Becomes.find?_methods (h : g₀.Becomes past g) (hempty : g₀.methods = [])
    (signature : Signature T) : g.methods.find? (·.signature = signature) =
      (Turn.attempts past).find? (·.signature = signature) := by
  induction h with
  | start => simp [hempty, Turn.attempts]
  | @joined past g h m hm ih =>
    rw [methods_register_of_not_mem hm, Turn.attempts_append, List.find?_append, ih,
      List.find?_append]
    rfl
  | @refused past g h m hm ih =>
    rw [function_register_of_mem hm, ih, Turn.attempts_append, List.find?_append]
    by_cases hsame : m.signature = signature
    · -- The signature was attempted before, so the first method under it is an older one.
      have hold : signature ∈ Turn.attempted past :=
        (h.mem_signatures_iff hempty).1 (hsame ▸ hm)
      obtain ⟨first, hfirst, hsignature⟩ := List.mem_map.1 hold
      have hsome : ((Turn.attempts past).find? (·.signature = signature)).isSome := by
        rw [List.find?_isSome]
        exact ⟨first, hfirst, by simp [hsignature]⟩
      rw [Option.or_of_isSome hsome]
    · simp [Turn.attempts, Turn.attempt?, hsame]
  | @asked past g h concrete ih =>
    rw [methods_lookup, ih, Turn.attempts_append]
    simp [Turn.attempts, Turn.attempt?]

theorem Becomes.firstWins (h : g₀.Becomes past g) (hempty : g₀.methods = []) :
    g.FirstWins past where
  signatures := h.signatures_eq hempty
  stored := h.find?_methods hempty
  succeeds_iff m := by rw [register_eq_ok_iff, h.mem_signatures_iff hempty]
  joins m hok := by
    have hnew := (register_eq_ok_iff g m).1 hok
    exact ⟨methods_register_of_not_mem hnew, cache_register_of_not_mem hnew⟩
  refuses m e herror := by
    have hmem : m.signature ∈ g.signatures := by
      by_contra hnew
      rw [(register_eq_ok_iff g m).2 hnew] at herror
      cases herror
    rw [answer_register_of_mem hmem] at herror
    exact ⟨(Except.error.inj herror).symm, function_register_of_mem hmem⟩

end GenericFunction

end Multimethod
