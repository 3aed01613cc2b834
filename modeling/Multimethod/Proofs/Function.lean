import Multimethod.Function

/-! # What the steps of a function keep -/

namespace Multimethod.GenericFunction

variable {T : Type} {β : Kind → Type} {g h : GenericFunction T β}

/-! ## Methods -/

theorem forall_methods_register [DecidableEq T] {P : Method T β → Prop}
    (hg : ∀ other ∈ g.methods, P other) {m : Method T β} (hm : P m) :
    ∀ other ∈ (g.register m).function.methods, P other := by
  by_cases hmem : m.signature ∈ g.signatures
  · rw [function_register_of_mem hmem]
    exact hg
  · rw [methods_register_of_not_mem hmem]
    exact List.forall_mem_append.2 ⟨hg, List.forall_mem_singleton.2 hm⟩

/-! ## What never changes -/

def profile (g : GenericFunction T β) : String × Nat × Config := (g.name, g.arity, g.config)

theorem profile_register [DecidableEq T] (g : GenericFunction T β) (m : Method T β) :
    (g.register m).function.profile = g.profile := by
  unfold register
  split <;> rfl

theorem profile_lookup [DecidableEq T] [Descriptor T] (g : GenericFunction T β)
    (concrete : Signature T) : (g.lookup concrete).function.profile = g.profile := by
  unfold lookup
  split
  · split <;> rfl
  · rfl

/-! ## Coherent caches -/

section

variable [Descriptor T]

def Coherent (g : GenericFunction T β) : Prop := ∀ entry ∈ g.cache, entry.2 = g.effective entry.1

theorem coherent_of_cache_eq_nil (hg : g.cache = []) : g.Coherent := by
  intro entry hentry
  simp [hg] at hentry

variable [DecidableEq T]

theorem Coherent.eq_effective (hg : g.Coherent) {concrete : Signature T} {chain : Chain T β}
    (hcached : g.cached? concrete = some chain) : chain = g.effective concrete := by
  obtain ⟨before, rest, hcache, _⟩ := List.lookup_eq_some_iff.1 hcached
  exact hg (concrete, chain) (by simp [hcache])

theorem Coherent.answer_lookup (hg : g.Coherent) (concrete : Signature T) :
    (g.lookup concrete).answer = g.effective concrete := by
  cases hcached : g.cached? concrete with
  | none => exact answer_lookup_of_not_cached (Or.inr hcached)
  | some chain =>
    by_cases henabled : g.config.cache.enabled = true
    · rw [answer_lookup_of_cached henabled hcached, hg.eq_effective hcached]
    · exact answer_lookup_of_not_cached (Or.inl (by simpa using henabled))

theorem Coherent.lookup (hg : g.Coherent) (concrete : Signature T) :
    (g.lookup concrete).function.Coherent := by
  unfold GenericFunction.lookup
  split
  · split
    · exact hg
    · exact List.forall_mem_append.2 ⟨hg, List.forall_mem_singleton.2 rfl⟩
  · exact hg

theorem Coherent.register (hg : g.Coherent) (m : Method T β) :
    (g.register m).function.Coherent := by
  by_cases hmem : m.signature ∈ g.signatures
  · rw [function_register_of_mem hmem]
    exact hg
  · exact coherent_of_cache_eq_nil (cache_register_of_not_mem hmem)

end

/-! ## Functions that differ in their caches -/

/-- The functions may differ in their configuration, and in what they cached and counted. -/
structure Alike (g h : GenericFunction T β) : Prop where
  name : g.name = h.name
  arity : g.arity = h.arity
  methods : g.methods = h.methods

theorem Alike.refl (g : GenericFunction T β) : g.Alike g := ⟨rfl, rfl, rfl⟩

theorem Alike.signatures (halike : g.Alike h) : g.signatures = h.signatures := by
  rw [GenericFunction.signatures, GenericFunction.signatures, halike.methods]

section

variable [DecidableEq T]

theorem Alike.answer_register (halike : g.Alike h) (m : Method T β) :
    (g.register m).answer = (h.register m).answer := by
  unfold GenericFunction.register
  rw [halike.signatures, halike.name]
  by_cases hmem : m.signature ∈ h.signatures
  · simp only [hmem, if_true]
  · simp only [hmem, if_false]

theorem Alike.register (halike : g.Alike h) (m : Method T β) :
    (g.register m).function.Alike (h.register m).function := by
  unfold GenericFunction.register
  rw [halike.signatures]
  by_cases hmem : m.signature ∈ h.signatures
  · simpa only [hmem, if_true] using halike
  · simp only [hmem, if_false]
    exact ⟨halike.name, halike.arity, congrArg (· ++ [m]) halike.methods⟩

end

variable [Descriptor T]

theorem Alike.effective (halike : g.Alike h) (concrete : Signature T) :
    g.effective concrete = h.effective concrete := by
  rw [GenericFunction.effective, GenericFunction.effective, halike.name, halike.methods]

theorem Alike.applicable (halike : g.Alike h) (concrete : Signature T) :
    g.applicable concrete = h.applicable concrete := by
  rw [GenericFunction.applicable, GenericFunction.applicable, halike.methods]

variable [DecidableEq T]

theorem alike_lookup (g : GenericFunction T β) (concrete : Signature T) :
    (g.lookup concrete).function.Alike g := by
  unfold lookup
  split
  · split <;> exact ⟨rfl, rfl, rfl⟩
  · exact ⟨rfl, rfl, rfl⟩

theorem Alike.lookup (halike : g.Alike h) (concrete : Signature T) :
    (g.lookup concrete).function.Alike (h.lookup concrete).function := by
  have hg := g.alike_lookup concrete
  have hh := h.alike_lookup concrete
  exact ⟨by rw [hg.name, hh.name, halike.name], by rw [hg.arity, hh.arity, halike.arity],
    by rw [hg.methods, hh.methods, halike.methods]⟩

end Multimethod.GenericFunction
