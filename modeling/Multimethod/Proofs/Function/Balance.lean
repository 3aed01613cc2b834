import Mathlib.Algebra.Ring.Nat
import Multimethod.Proofs.Function

/-! # The balance of a function -/

namespace Multimethod

variable {T : Type} {β : Kind → Type}

/-! ## Counting events -/

namespace Happening

def isRegistered : Happening T → Bool
  | registered _ _ => true
  | _ => false

def isRejected : Happening T → Bool
  | rejected => true
  | _ => false

def isNoneApplicable : Happening T → Bool
  | noneApplicable => true
  | _ => false

def isResolved : Happening T → Bool
  | resolved _ _ _ => true
  | _ => false

def isCacheHit : Happening T → Bool
  | cacheHit => true
  | _ => false

def dropped : Happening T → Nat
  | registered _ dropped => dropped
  | _ => 0

end Happening

namespace Event

def count (test : Happening T → Bool) (events : List (Event T)) : Nat :=
  events.countP fun e => test e.happening

def dropped (events : List (Event T)) : Nat := (events.map (·.happening.dropped)).sum

theorem count_concat (test : Happening T → Bool) (events : List (Event T)) (e : Event T) :
    count test (events ++ [e]) = count test events + if test e.happening then 1 else 0 := by
  simp [count, List.countP_cons]

theorem dropped_append (events more : List (Event T)) :
    dropped (events ++ more) = dropped events + dropped more := by
  simp [dropped]

theorem dropped_concat (events : List (Event T)) (e : Event T) :
    dropped (events ++ [e]) = dropped events + e.happening.dropped := by
  rw [dropped_append]
  rfl

/-- There is no sixth kind of event. -/
theorem length_eq_count (events : List (Event T)) :
    events.length = count Happening.isRegistered events + count Happening.isRejected events +
      count Happening.isNoneApplicable events + count Happening.isResolved events +
      count Happening.isCacheHit events := by
  induction events with
  | nil => rfl
  | cons e rest ih =>
    simp only [count, List.countP_cons, List.length_cons] at ih ⊢
    rw [ih]
    cases e.happening <;> simp only [Happening.isRegistered, Happening.isRejected,
      Happening.isNoneApplicable, Happening.isResolved, Happening.isCacheHit, if_true,
      Bool.false_eq_true, if_false] <;> omega

end Event

namespace Stats

def tally (s : Stats) : Happening T → Stats
  | .registered _ _ =>
    { s with registrations := s.registrations + 1, invalidations := s.invalidations + 1 }
  | .rejected => s
  | .noneApplicable | .resolved _ _ _ =>
    { s with invocations := s.invocations + 1, resolutions := s.resolutions + 1 }
  | .cacheHit => { s with invocations := s.invocations + 1, cacheHits := s.cacheHits + 1 }

def ofEvents (events : List (Event T)) : Stats where
  invocations := Event.count Happening.isCacheHit events +
    (Event.count Happening.isResolved events + Event.count Happening.isNoneApplicable events)
  cacheHits := Event.count Happening.isCacheHit events
  resolutions :=
    Event.count Happening.isResolved events + Event.count Happening.isNoneApplicable events
  registrations := Event.count Happening.isRegistered events
  invalidations := Event.count Happening.isRegistered events

theorem ofEvents_concat (events : List (Event T)) (e : Event T) :
    ofEvents (events ++ [e]) = (ofEvents events).tally e.happening := by
  simp only [ofEvents, Event.count_concat]
  cases e.happening <;> simp [tally, Happening.isRegistered, Happening.isNoneApplicable,
    Happening.isResolved, Happening.isCacheHit] <;> omega

end Stats

/-! ## What a step counts -/

namespace GenericFunction

variable {g : GenericFunction T β} {events : List (Event T)}

theorem stats_register [DecidableEq T] (g : GenericFunction T β) (m : Method T β) :
    (g.register m).function.stats = g.stats.tally (g.register m).event.happening := by
  unfold register
  split <;> rfl

theorem tally_resolution [Descriptor T] (g : GenericFunction T β) (concrete : Signature T)
    (s : Stats) : s.tally (g.resolution concrete) =
      { s with invocations := s.invocations + 1, resolutions := s.resolutions + 1 } := by
  unfold resolution
  split <;> rfl

theorem dropped_resolution [Descriptor T] (g : GenericFunction T β) (concrete : Signature T) :
    (g.resolution concrete).dropped = 0 := by
  unfold resolution
  split <;> rfl

theorem stats_lookup [DecidableEq T] [Descriptor T] (g : GenericFunction T β)
    (concrete : Signature T) :
    (g.lookup concrete).function.stats = g.stats.tally (g.lookup concrete).event.happening := by
  unfold lookup
  split
  · split
    · rfl
    · exact (tally_resolution g concrete g.stats).symm
  · exact (tally_resolution g concrete g.stats).symm

theorem lookup_cases [DecidableEq T] [Descriptor T] (g : GenericFunction T β)
    (concrete : Signature T) :
    (g.config.cache.enabled = true ∧ (g.lookup concrete).event.happening = .cacheHit ∧
      (g.lookup concrete).function.cachedSignatures = g.cachedSignatures) ∨
    ((g.lookup concrete).event.happening = g.resolution concrete ∧
      (g.lookup concrete).function.cachedSignatures =
        g.cachedSignatures + if g.config.cache.enabled then 1 else 0) := by
  by_cases henabled : g.config.cache.enabled = true
  · cases hcached : g.cached? concrete with
    | none =>
      right
      constructor <;> simp [lookup, henabled, hcached, cachedSignatures]
    | some chain =>
      left
      refine ⟨henabled, ?_, ?_⟩ <;> simp [lookup, henabled, hcached, cachedSignatures]
  · right
    constructor <;> simp [lookup, henabled, cachedSignatures]

/-! ## The balance -/

structure Balanced (g : GenericFunction T β) (events : List (Event T)) : Prop where
  stats : g.stats = .ofEvents events
  registrations : g.stats.registrations = g.size
  /-- Every chain that was built is either in the cache or dropped by now. -/
  cached : g.config.cache.enabled = true →
    g.stats.resolutions = g.cachedSignatures + Event.dropped events
  uncached : g.config.cache.enabled = false → g.stats.cacheHits = 0 ∧ g.cachedSignatures = 0

theorem Balanced.invocations (h : g.Balanced events) :
    g.stats.invocations = g.stats.cacheHits + g.stats.resolutions := by
  rw [h.stats]
  rfl

theorem balanced_create (name : String) (arity : Nat) (config : Config) :
    Balanced (β := β) { name, arity, config } ([] : List (Event T)) where
  stats := rfl
  registrations := rfl
  cached _ := rfl
  uncached _ := ⟨rfl, rfl⟩

theorem config_register [DecidableEq T] (g : GenericFunction T β) (m : Method T β) :
    (g.register m).function.config = g.config := congrArg (·.2.2) (profile_register g m)

theorem config_lookup [DecidableEq T] [Descriptor T] (g : GenericFunction T β)
    (concrete : Signature T) : (g.lookup concrete).function.config = g.config :=
  congrArg (·.2.2) (profile_lookup g concrete)

theorem Balanced.register [DecidableEq T] (h : g.Balanced events) (m : Method T β) :
    (g.register m).function.Balanced (events ++ [(g.register m).event]) := by
  have hstats : (g.register m).function.stats = .ofEvents (events ++ [(g.register m).event]) := by
    rw [stats_register, h.stats, Stats.ofEvents_concat]
  by_cases hmem : m.signature ∈ g.signatures
  · have hhappening : (g.register m).event.happening = .rejected := by
      simp [GenericFunction.register, hmem]
    rw [function_register_of_mem hmem] at hstats ⊢
    refine ⟨hstats, h.registrations, ?_, h.uncached⟩
    rw [Event.dropped_concat, hhappening]
    exact h.cached
  · have hhappening : (g.register m).event.happening = .registered m.kind g.cachedSignatures := by
      simp [GenericFunction.register, hmem, cachedSignatures]
    have hcache : (g.register m).function.cachedSignatures = 0 := by
      rw [cachedSignatures, cache_register_of_not_mem hmem, List.length_nil]
    refine ⟨hstats, ?_, fun henabled => ?_, fun hdisabled => ⟨?_, hcache⟩⟩
    · rw [stats_register, hhappening, size, methods_register_of_not_mem hmem, List.length_append]
      exact congrArg (· + 1) h.registrations
    · -- The chains that were in the cache count as dropped from now on.
      have hbuilt := h.cached (config_register g m ▸ henabled)
      rw [stats_register, Event.dropped_concat, hhappening, hcache]
      simp only [Stats.tally, Happening.dropped]
      omega
    · rw [stats_register, hhappening]
      exact (h.uncached (config_register g m ▸ hdisabled)).1

theorem Balanced.lookup [DecidableEq T] [Descriptor T] (h : g.Balanced events)
    (concrete : Signature T) :
    (g.lookup concrete).function.Balanced (events ++ [(g.lookup concrete).event]) := by
  have hstats : (g.lookup concrete).function.stats =
      .ofEvents (events ++ [(g.lookup concrete).event]) := by
    rw [stats_lookup, h.stats, Stats.ofEvents_concat]
  have hsize : (g.lookup concrete).function.size = g.size := by
    rw [size, size, methods_lookup]
  rcases g.lookup_cases concrete with ⟨henabled, hhappening, hcache⟩ | ⟨hhappening, hcache⟩
  · refine ⟨hstats, ?_, fun _ => ?_, fun hdisabled => ?_⟩
    · rw [stats_lookup, hhappening, hsize]
      exact h.registrations
    · rw [stats_lookup, Event.dropped_concat, hhappening, hcache]
      exact h.cached henabled
    · rw [config_lookup, henabled] at hdisabled
      cases hdisabled
  · refine ⟨hstats, ?_, fun henabled => ?_, fun hdisabled => ?_⟩
    · rw [stats_lookup, hhappening, tally_resolution, hsize]
      exact h.registrations
    · rw [config_lookup] at henabled
      have hbuilt := h.cached henabled
      rw [stats_lookup, Event.dropped_concat, hhappening, hcache, tally_resolution,
        dropped_resolution, if_pos henabled]
      simp only
      omega
    · rw [config_lookup] at hdisabled
      rw [stats_lookup, hhappening, hcache, tally_resolution, hdisabled]
      exact h.uncached hdisabled

end GenericFunction

end Multimethod
