import Mathlib.Data.List.Dedup
import Multimethod.Proofs.Function

/-!
# Epochs

With a method that joins an epoch begins. The cache holds a chain for each signature asked for in the
current one, and for no other.
-/

namespace Multimethod

variable {T : Type} {β : Kind → Type}

/-- What a function is asked to do, and how a registration ends. -/
inductive Turn (T : Type) (β : Kind → Type) where
  | joined (m : Method T β)
  | refused (m : Method T β)
  | asked (concrete : Signature T)

namespace Turn

def joins : Turn T β → Bool
  | joined _ => true
  | _ => false

def asked? : Turn T β → Option (Signature T)
  | asked concrete => some concrete
  | _ => none

def joined? : Turn T β → Option (Method T β)
  | joined m => some m
  | _ => none

/-- The signatures asked for since a method last joined, the latest first. -/
def epoch (past : List (Turn T β)) : List (Signature T) :=
  (past.reverse.takeWhile fun turn => !turn.joins).filterMap asked?

theorem epoch_joined (past : List (Turn T β)) (m : Method T β) : epoch (past ++ [joined m]) = [] := by
  simp [epoch, joins]

theorem epoch_refused (past : List (Turn T β)) (m : Method T β) :
    epoch (past ++ [refused m]) = epoch past := by
  simp [epoch, joins, List.filterMap_cons, asked?]

theorem epoch_asked (past : List (Turn T β)) (concrete : Signature T) :
    epoch (past ++ [asked concrete]) = concrete :: epoch past := by
  simp [epoch, joins, asked?]

theorem mem_epoch_append {past more : List (Turn T β)} (hmore : ∀ turn ∈ more, turn.joins = false)
    {concrete : Signature T} :
    concrete ∈ epoch (past ++ more) ↔ concrete ∈ more.filterMap asked? ∨ concrete ∈ epoch past := by
  have hall : ∀ turn ∈ more.reverse, (!turn.joins) = true := by
    intro turn hturn
    simp [hmore turn (List.mem_reverse.1 hturn)]
  rw [epoch, List.reverse_append, List.takeWhile_append_of_pos hall, List.filterMap_append,
    List.mem_append, List.filterMap_reverse, List.mem_reverse, epoch]

end Turn

namespace GenericFunction

variable [DecidableEq T] [Descriptor T] {g₀ g : GenericFunction T β} {concrete : Signature T}

/-! ## Hits and misses -/

structure Hits (g : GenericFunction T β) (concrete : Signature T) : Prop where
  answer : g.cached? concrete = some (g.lookup concrete).answer
  happening : (g.lookup concrete).event.happening = .cacheHit
  stats : (g.lookup concrete).function.stats =
    { g.stats with
      invocations := g.stats.invocations + 1
      cacheHits := g.stats.cacheHits + 1 }

structure Resolves (g : GenericFunction T β) (concrete : Signature T) : Prop where
  answer : (g.lookup concrete).answer = g.effective concrete
  happening : (g.lookup concrete).event.happening = g.resolution concrete
  stats : (g.lookup concrete).function.stats =
    { g.stats with
      invocations := g.stats.invocations + 1
      resolutions := g.stats.resolutions + 1 }

theorem Hits.not_resolves (h : g.Hits concrete) : ¬ g.Resolves concrete := by
  intro hresolves
  have hstats := congrArg Stats.cacheHits (h.stats.symm.trans hresolves.stats)
  simp at hstats

def keys (g : GenericFunction T β) : List (Signature T) := g.cache.map (·.1)

omit [Descriptor T] in
theorem cached?_eq_none_iff : g.cached? concrete = none ↔ concrete ∉ g.keys := by
  rw [cached?, List.lookup_eq_none_iff, keys, List.mem_map]
  simp only [bne_iff_ne]
  constructor
  · rintro hnone ⟨entry, hentry, rfl⟩
    exact hnone entry hentry rfl
  · rintro hkeys entry hentry rfl
    exact hkeys ⟨entry, hentry, rfl⟩

omit [Descriptor T] in
theorem exists_cached_of_mem_keys (h : concrete ∈ g.keys) :
    ∃ chain, g.cached? concrete = some chain := by
  apply Option.ne_none_iff_exists'.1
  rw [Ne, cached?_eq_none_iff]
  exact not_not_intro h

theorem hits_of_mem_keys (henabled : g.config.cache.enabled = true) (h : concrete ∈ g.keys) :
    g.Hits concrete := by
  obtain ⟨chain, hchain⟩ := exists_cached_of_mem_keys h
  have hlookup := answer_lookup_of_cached henabled hchain
  refine ⟨by rw [hlookup, hchain], ?_, ?_⟩ <;> simp [lookup, henabled, hchain]

theorem resolves_of_not_mem_keys (h : concrete ∉ g.keys) : g.Resolves concrete := by
  have hnone := cached?_eq_none_iff.2 h
  refine ⟨answer_lookup_of_not_cached (Or.inr hnone), ?_, ?_⟩
  · unfold lookup
    split <;> simp [hnone]
  · unfold lookup
    split <;> simp [hnone]

theorem keys_lookup (henabled : g.config.cache.enabled = true) (concrete : Signature T) :
    (g.lookup concrete).function.keys =
      if concrete ∈ g.keys then g.keys else g.keys ++ [concrete] := by
  by_cases h : concrete ∈ g.keys
  · obtain ⟨chain, hchain⟩ := exists_cached_of_mem_keys h
    rw [if_pos h]
    simp [lookup, keys, henabled, hchain]
  · have hnone := cached?_eq_none_iff.2 h
    rw [if_neg h]
    simp [lookup, keys, henabled, hnone]

/-! ## From turn to turn -/

/-- By taking these turns the function becomes `g`. -/
inductive Becomes (g₀ : GenericFunction T β) : List (Turn T β) → GenericFunction T β → Prop where
  | start : Becomes g₀ [] g₀
  | joined {past : List (Turn T β)} {g : GenericFunction T β} (h : Becomes g₀ past g)
    {m : Method T β} (hm : m.signature ∉ g.signatures) :
    Becomes g₀ (past ++ [.joined m]) (g.register m).function
  | refused {past : List (Turn T β)} {g : GenericFunction T β} (h : Becomes g₀ past g)
    {m : Method T β} (hm : m.signature ∈ g.signatures) :
    Becomes g₀ (past ++ [.refused m]) (g.register m).function
  | asked {past : List (Turn T β)} {g : GenericFunction T β} (h : Becomes g₀ past g)
    (concrete : Signature T) : Becomes g₀ (past ++ [.asked concrete]) (g.lookup concrete).function

variable {past : List (Turn T β)}

theorem Becomes.profile_eq (h : g₀.Becomes past g) : g.profile = g₀.profile := by
  induction h with
  | start => rfl
  | joined _ _ ih => rw [profile_register, ih]
  | refused _ _ ih => rw [profile_register, ih]
  | asked _ concrete ih => rw [profile_lookup, ih]

theorem Becomes.config_eq (h : g₀.Becomes past g) : g.config = g₀.config :=
  congrArg (·.2.2) h.profile_eq

theorem Becomes.coherent (h : g₀.Becomes past g) (hg₀ : g₀.Coherent) : g.Coherent := by
  induction h with
  | start => exact hg₀
  | joined _ _ ih => exact ih.register _
  | refused _ _ ih => exact ih.register _
  | asked _ concrete ih => exact ih.lookup concrete

theorem Becomes.methods_eq (h : g₀.Becomes past g) :
    g.methods = g₀.methods ++ past.filterMap Turn.joined? := by
  induction h with
  | start => simp
  | joined _ hm ih =>
    rw [methods_register_of_not_mem hm, ih]
    simp [Turn.joined?]
  | refused _ hm ih =>
    rw [function_register_of_mem hm, ih]
    simp [Turn.joined?]
  | asked _ concrete ih =>
    rw [methods_lookup, ih]
    simp [Turn.joined?]

theorem Becomes.nodup_keys (h : g₀.Becomes past g) (henabled : g₀.config.cache.enabled = true)
    (hempty : g₀.cache = []) : g.keys.Nodup := by
  induction h with
  | start => simp [keys, hempty]
  | joined _ hm _ => simp [keys, cache_register_of_not_mem hm]
  | refused _ hm ih =>
    rw [function_register_of_mem hm]
    exact ih
  | @asked past g h concrete ih =>
    rw [keys_lookup (h.config_eq ▸ henabled)]
    split
    · exact ih
    · next hnew =>
      rw [← List.concat_eq_append]
      exact ih.concat hnew

theorem Becomes.mem_keys_iff (h : g₀.Becomes past g) (henabled : g₀.config.cache.enabled = true)
    (hempty : g₀.cache = []) (concrete : Signature T) :
    concrete ∈ g.keys ↔ concrete ∈ Turn.epoch past := by
  induction h with
  | start => simp [keys, hempty, Turn.epoch]
  | joined _ hm _ =>
    rw [Turn.epoch_joined, keys, cache_register_of_not_mem hm]
    simp
  | refused _ hm ih =>
    rw [Turn.epoch_refused, function_register_of_mem hm]
    exact ih
  | @asked past g h asked ih =>
    rw [Turn.epoch_asked, keys_lookup (h.config_eq ▸ henabled), List.mem_cons, ← ih]
    split
    · next hold =>
      constructor
      · exact Or.inr
      · rintro (rfl | hmem)
        · exact hold
        · exact hmem
    · rw [List.mem_append, List.mem_singleton, or_comm]

/-- A chain is taken from the cache for the signatures of the current epoch, which the cache holds once
each, and built for all others. -/
structure Remembers (g : GenericFunction T β) (past : List (Turn T β)) : Prop where
  hits (concrete : Signature T) : g.Hits concrete ↔ concrete ∈ Turn.epoch past
  resolves (concrete : Signature T) : g.Resolves concrete ↔ concrete ∉ Turn.epoch past
  count : g.cachedSignatures = (Turn.epoch past).dedup.length

theorem Becomes.remembers (h : g₀.Becomes past g) (henabled : g₀.config.cache.enabled = true)
    (hempty : g₀.cache = []) : g.Remembers past := by
  have hnodup := h.nodup_keys henabled hempty
  have hmem := h.mem_keys_iff henabled hempty
  rw [← h.config_eq] at henabled
  refine ⟨fun concrete => ?_, fun concrete => ?_, ?_⟩
  · rw [← hmem]
    refine ⟨fun hhits => ?_, hits_of_mem_keys henabled⟩
    by_contra hkeys
    exact hhits.not_resolves (resolves_of_not_mem_keys hkeys)
  · rw [← hmem]
    refine ⟨fun hresolves hkeys => ?_, resolves_of_not_mem_keys⟩
    exact (hits_of_mem_keys henabled hkeys).not_resolves hresolves
  · have hperm : g.keys.Perm (Turn.epoch past).dedup :=
      (List.perm_ext_iff_of_nodup hnodup (List.nodup_dedup _)).2 fun concrete => by
        rw [hmem, List.mem_dedup]
    rw [← hperm.length_eq, keys, List.length_map, cachedSignatures]

end GenericFunction

end Multimethod
