import Multimethod.Proofs.Diamond
import Multimethod.Proofs.Function.Balance
import Multimethod.Proofs.Store.Requests

/-! # The books of a program -/

namespace Multimethod.Store

variable {A T ρ R : Type} {f : Nat}

/-! ## The events of one function -/

def eventsOf (f : Nat) (events : List (Nat × Event T)) : List (Event T) :=
  (events.filter (·.1 = f)).map (·.2)

theorem eventsOf_concat_self (events : List (Nat × Event T)) (e : Event T) :
    eventsOf f (events ++ [(f, e)]) = eventsOf f events ++ [e] := by
  simp [eventsOf]

theorem eventsOf_concat_of_ne {f' : Nat} (hne : f' ≠ f) (events : List (Nat × Event T))
    (e : Event T) : eventsOf f (events ++ [(f', e)]) = eventsOf f events := by
  simp [eventsOf, hne]

/-! ## Books that are kept -/

variable {past : List (Nat × Event T)} {s : Store A T ρ R}

/-- Each function is balanced with all its events, of which those in `past` have been taken out of the
store. A function that is not there yet has none. -/
structure Accounted (past : List (Nat × Event T)) (s : Store A T ρ R) : Prop where
  balanced : ∀ (f : Nat) (g : GenericFunction T (Body A T ρ R)), s.functions[f]? = some g →
    g.Balanced (eventsOf f (past ++ s.events.toList))
  silent : ∀ f, s.functions.length ≤ f → eventsOf f (past ++ s.events.toList) = []

theorem Accounted.commit (h : s.Accounted past) {g : GenericFunction T (Body A T ρ R)}
    (hg : s.functions[f]? = some g) {α : Type} {step : Step T (Body A T ρ R) α}
    (hstep : ∀ events, g.Balanced events → step.function.Balanced (events ++ [step.event])) :
    (s.commit f step).Accounted past := by
  have hlt := (List.getElem?_eq_some_iff.1 hg).1
  have hevents : past ++ (s.commit f step).events.toList =
      past ++ s.events.toList ++ [(f, step.event)] := by
    simp [Store.commit]
  constructor
  · intro i g' hg'
    rw [hevents]
    by_cases hi : f = i
    · subst hi
      obtain rfl : step.function = g' := by simpa [Store.commit, hlt] using hg'
      rw [eventsOf_concat_self]
      exact hstep _ (h.balanced f g hg)
    · rw [eventsOf_concat_of_ne hi]
      exact h.balanced i g' (by simpa [Store.commit, hi] using hg')
  · intro i hi
    have hlength : s.functions.length ≤ i := by simpa [Store.commit] using hi
    rw [hevents, eventsOf_concat_of_ne (by omega)]
    exact h.silent i hlength

theorem Accounted.create (h : s.Accounted past) (name : String) (arity : Nat) (config : Config) :
    (s.add { name, arity, config }).2.Accounted past := by
  constructor
  · intro i g hg
    rcases Nat.lt_trichotomy i s.functions.length with hi | rfl | hi
    · exact h.balanced i g (by simpa [Store.add, List.getElem?_append_left hi] using hg)
    · obtain rfl : { name, arity, config } = g := by simpa [Store.add] using hg
      have hnone : eventsOf s.functions.length (past ++ s.events.toList) = [] :=
        h.silent _ (Nat.le_refl _)
      simp only [Store.add]
      rw [hnone]
      exact GenericFunction.balanced_create name arity config
    · have hnone : (s.functions ++ [({ name, arity, config } : GenericFunction T (Body A T ρ R))])[i]? =
          none := by
        rw [List.getElem?_eq_none_iff, List.length_append, List.length_singleton]
        omega
      rw [Store.add, hnone] at hg
      cases hg
  · intro i hi
    apply h.silent
    simp only [Store.add, List.length_append, List.length_singleton] at hi
    omega

variable [DecidableEq T] [Descriptor T] [Typed A T]

omit [Typed A T] in
theorem kept_accounted (past : List (Nat × Event T)) :
    Kept (fun s : Store A T ρ R => s.Accounted past) where
  aside := by
    intro s t hfunctions hevents h
    constructor
    · rw [hfunctions, hevents]
      exact h.balanced
    · rw [hfunctions, hevents]
      exact h.silent
  create _ name arity config h := h.create name arity config
  register _ _ _ m hg h := h.commit hg fun _ hbalanced => hbalanced.register m
  lookup _ _ _ concrete hg h := h.commit hg fun _ hbalanced => hbalanced.lookup concrete

/-! ## The books of a whole program -/

/-- The stores that a program comes to, each with the events that were taken out on the way there. -/
inductive Traced : List (Nat × Event T) → Store A T ρ R → Prop where
  | start (scope : ρ) : Traced [] { scope }
  | serve {past : List (Nat × Event T)} {s : Store A T ρ R} (h : Traced past s) (depth : Nat)
    (request : Request A T ρ R) : Traced past (s.serve depth request).2
  | during {past : List (Nat × Event T)} {s : Store A T ρ R} (h : Traced past s) {depth f : Nat}
    {arguments : List A} {done rest : List (Deed A T ρ R)}
    (hdeeds : s.deeds depth f arguments = done ++ rest) : Traced past (s.after done)
  | taken {past : List (Nat × Event T)} {s : Store A T ρ R} (h : Traced past s)
    (log : Array String) : Traced (past ++ s.events.toList) { s with log, events := #[] }

theorem Traced.serveAll (h : Traced past s) (depth : Nat) (requests : List (Request A T ρ R)) :
    Traced past (s.serveAll depth requests).2 := by
  induction requests generalizing s with
  | nil => exact h
  | cons request rest ih => exact ih (h.serve depth request)

theorem Traced.accounted (h : Traced past s) : s.Accounted past := by
  induction h with
  | start scope => exact ⟨nofun, fun f _ => rfl⟩
  | serve h depth request ih => exact (kept_accounted _).serve ih depth request
  | during h hdeeds ih => exact (kept_accounted _).after ih _
  | taken h log ih =>
    constructor
    · simpa using ih.balanced
    · simpa using ih.silent

/-- At every moment the counters of a function agree with each other, with its methods, with its
cache and with its events. -/
theorem counters_balance (h : Traced past s) {g : GenericFunction T (Body A T ρ R)}
    (hg : s.functions[f]? = some g) :
    let events := eventsOf f (past ++ s.events.toList)
    g.stats.invocations = g.stats.cacheHits + g.stats.resolutions ∧
    g.stats.registrations = g.stats.invalidations ∧ g.stats.registrations = g.size ∧
    (g.config.cache.enabled = true →
      g.stats.resolutions = g.cachedSignatures + Event.dropped events) ∧
    (g.config.cache.enabled = false → g.stats.cacheHits = 0 ∧ g.cachedSignatures = 0 ∧
      g.stats.resolutions = g.stats.invocations) ∧
    Event.count Happening.isCacheHit events = g.stats.cacheHits ∧
    Event.count Happening.isResolved events + Event.count Happening.isNoneApplicable events =
      g.stats.resolutions ∧
    Event.count Happening.isRegistered events = g.stats.registrations ∧
    events.length =
      g.stats.invocations + g.stats.registrations + Event.count Happening.isRejected events := by
  intro events
  have hbalanced := h.accounted.balanced f g hg
  have hstats : g.stats = .ofEvents events := hbalanced.stats
  have hinvocations := hbalanced.invocations
  refine ⟨hinvocations, ?_, hbalanced.registrations, hbalanced.cached, fun hdisabled => ?_, ?_, ?_,
    ?_, ?_⟩
  · rw [hstats]
    rfl
  · obtain ⟨hhits, hcached⟩ := hbalanced.uncached hdisabled
    exact ⟨hhits, hcached, by omega⟩
  -- The other counters are the counts of the events by definition.
  all_goals rw [hstats]
  · rfl
  · rfl
  · rfl
  · have hlength := Event.length_eq_count events
    simp only [Stats.ofEvents]
    omega

theorem counters_balance_learner :
    let s : Store Diamond Diamond Unit String := (serveAll 2 { scope := () } [.create "f" 1 {},
      .create "e" 1 (Config.withoutCache {}), .invoke 0 [.left], .register 0 (Diamond.learner 0),
      .invoke 0 [.bottom], .register 0 (Diamond.leaf "again" .bottom)]).2
    let t : Store Diamond Diamond Unit String := (serveAll 2 { s with log := #[], events := #[] }
      [.invoke 0 [.bottom], .register 1 (Diamond.inner "i" .top), .invoke 1 [.left],
        .applicable 1 [.left]]).2
    Traced s.events.toList t ∧ ∃ g, t.functions[0]? = some g ∧
      g.stats = ⟨4, 1, 3, 2, 2⟩ ∧ g.cachedSignatures = 1 ∧
      Event.dropped (eventsOf 0 (s.events.toList ++ t.events.toList)) = 2 := by
  intro s t
  have htraced : Traced s.events.toList t :=
    (((Traced.start ()).serveAll 2 _).taken #[]).serveAll 2 _
  have hshown : t.functions[0]?.map (fun g => (g.stats, g.cachedSignatures,
      g.config.cache.enabled)) = some (⟨4, 1, 3, 2, 2⟩, 1, true) := by
    decide +kernel
  obtain ⟨g, hg, heq⟩ := Option.map_eq_some_iff.1 hshown
  simp only [Prod.mk.injEq] at heq
  obtain ⟨hstats, hcached, henabled⟩ := heq
  refine ⟨htraced, g, hg, hstats, hcached, ?_⟩
  have hbuilt := (counters_balance htraced hg).2.2.2.1 henabled
  rw [hstats, hcached] at hbuilt
  simp only at hbuilt
  omega

end Multimethod.Store
