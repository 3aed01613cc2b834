import Multimethod.Proofs.Diamond
import Multimethod.Proofs.Function.Balance
import Multimethod.Proofs.Function.Interleaving

/-! # What all interleavings agree on -/

namespace Multimethod

namespace GenericFunction

variable {T : Type} {β : Kind → Type} [DecidableEq T] [Descriptor T]
  {g₀ g : GenericFunction T β} {past : List (Turn T β)} {threads : List (List (Operation T β))}
  {schedule other : List (Nat × Operation T β)}

/-! ## What a function counts in its turns -/

theorem Becomes.invocations_eq (h : g₀.Becomes past g) :
    g.stats.invocations = g₀.stats.invocations + (past.filterMap Turn.asked?).length := by
  induction h with
  | start => rfl
  | @joined past g _ m _ ih | @refused past g _ m _ ih =>
    have hsame : (g.register m).function.stats.invocations = g.stats.invocations := by
      unfold GenericFunction.register
      split <;> rfl
    rw [hsame, ih]
    simp [Turn.asked?]
  | @asked past g _ concrete ih =>
    have hnext : (g.lookup concrete).function.stats.invocations = g.stats.invocations + 1 := by
      unfold GenericFunction.lookup
      split
      · split <;> rfl
      · rfl
    rw [hnext, ih]
    simp [Turn.asked?, Nat.add_assoc]

theorem Becomes.exists_balanced (h : g₀.Becomes past g) {events : List (Event T)}
    (hbalanced : g₀.Balanced events) :
    ∃ more, g.Balanced (events ++ more) ∧
      ((∀ turn ∈ past, turn.joins = false) → Event.dropped more = 0) := by
  induction h with
  | start => exact ⟨[], by rwa [List.append_nil], fun _ => rfl⟩
  | @joined past g _ m _ ih =>
    obtain ⟨more, hmore, -⟩ := ih
    refine ⟨more ++ [(g.register m).event], ?_, fun hnone => ?_⟩
    · rw [← List.append_assoc]
      exact hmore.register m
    · cases hnone (.joined m) (by simp)
  | @refused past g _ m hm ih =>
    obtain ⟨more, hmore, hdropped⟩ := ih
    refine ⟨more ++ [(g.register m).event], ?_, fun hnone => ?_⟩
    · rw [← List.append_assoc]
      exact hmore.register m
    · rw [Event.dropped_concat, hdropped fun turn hturn => hnone turn (List.mem_append_left _ hturn)]
      simp [GenericFunction.register, hm, Happening.dropped]
  | @asked past g _ concrete ih =>
    obtain ⟨more, hmore, hdropped⟩ := ih
    refine ⟨more ++ [(g.lookup concrete).event], ?_, fun hnone => ?_⟩
    · rw [← List.append_assoc]
      exact hmore.lookup concrete
    · rw [Event.dropped_concat, hdropped fun turn hturn => hnone turn (List.mem_append_left _ hturn)]
      rcases g.lookup_cases concrete with ⟨-, hhappening, -⟩ | ⟨hhappening, -⟩
      · rw [hhappening]
        rfl
      · rw [hhappening, dropped_resolution]

/-! ## What every interleaving gives -/

theorem invocations_performAll (hperm : (schedule.map (·.2)).Perm (other.map (·.2))) :
    (g.performAll schedule).2.stats.invocations = (g.performAll other).2.stats.invocations := by
  have hasked : ∀ schedule, (g.performAll schedule).2.stats.invocations =
      g.stats.invocations + ((schedule.map (·.2)).filterMap Operation.asked?).length := by
    intro schedule
    rw [← asked_performAll g]
    exact (Becomes.start.performAll schedule : g.Becomes _ _).invocations_eq
  rw [hasked, hasked, (hperm.filterMap _).length_eq]

section

variable {name : String} {arity : Nat} {config : Config}
  (h : Becomes (β := β) { name, arity, config } past g)

include h

theorem mem_signatures_performAll (schedule : List (Nat × Operation T β)) {signature : Signature T} :
    signature ∈ (g.performAll schedule).2.signatures ↔
      signature ∈ g.signatures ∨ signature ∈ (schedule.map (·.2)).filterMap Operation.attempted? := by
  rw [(h.performAll schedule).mem_signatures_iff rfl, Turn.attempted_append, List.mem_append,
    attempted_performAll, h.mem_signatures_iff rfl]

theorem countP_joined_performAll {schedule : List (Nat × Operation T β)} {signature : Signature T}
    (hattempted : signature ∈ (schedule.map (·.2)).filterMap Operation.attempted?) :
    (Performed.joined (g.performAll schedule).1).countP (·.signature = signature) =
      if signature ∈ g.signatures then 0 else 1 := by
  have hmem := (mem_signatures_performAll h schedule).2 (Or.inr hattempted)
  have hnodup := (h.performAll schedule).nodup_signatures rfl
  have hone := List.count_eq_one_of_mem hnodup hmem
  rw [signatures, methods_performAll, List.map_append, List.count_append] at hone
  have hold : (g.methods.map (·.signature)).count signature =
      if signature ∈ g.signatures then 1 else 0 := (h.nodup_signatures rfl).count
  have hnew : ((Performed.joined (g.performAll schedule).1).map (·.signature)).count signature =
      (Performed.joined (g.performAll schedule).1).countP (·.signature = signature) := by
    rw [List.count, List.countP_map]
    rfl
  rw [← hnew]
  by_cases hfree : signature ∈ g.signatures
  · rw [if_pos hfree] at hold ⊢
    omega
  · rw [if_neg hfree] at hold ⊢
    omega

theorem perm_signatures_performAll (hperm : (schedule.map (·.2)).Perm (other.map (·.2))) :
    (g.performAll schedule).2.signatures.Perm (g.performAll other).2.signatures := by
  rw [List.perm_ext_iff_of_nodup ((h.performAll schedule).nodup_signatures rfl)
    ((h.performAll other).nodup_signatures rfl)]
  intro signature
  rw [mem_signatures_performAll h, mem_signatures_performAll h, (hperm.filterMap _).mem_iff]

theorem registrations_performAll (hperm : (schedule.map (·.2)).Perm (other.map (·.2))) :
    (g.performAll schedule).2.stats.registrations = (g.performAll other).2.stats.registrations := by
  have hsize : ∀ schedule, (g.performAll schedule).2.stats.registrations =
      (g.performAll schedule).2.signatures.length := by
    intro schedule
    obtain ⟨events, hbalanced, -⟩ :=
      (h.performAll schedule).exists_balanced (balanced_create name arity config)
    rw [hbalanced.registrations, size, signatures, List.length_map]
  rw [hsize, hsize, (perm_signatures_performAll h hperm).length_eq]

end

theorem Coherent.perform (hg : g.Coherent) (operation : Operation T β) :
    (g.perform operation).2.Coherent := by
  cases operation with
  | register m => exact hg.register m
  | lookup concrete => exact hg.lookup concrete

theorem Coherent.answer_performAll (hg : g.Coherent) {before after : List (Performed T β)}
    {thread : Nat} {concrete : Signature T} {answer : Operation.Answer T β}
    (hrecords : (g.performAll schedule).1 = before ++ ⟨thread, .lookup concrete, answer⟩ :: after) :
    answer = .found (Chain.effective g.name (g.methods ++ Performed.joined before) concrete) := by
  induction schedule generalizing g before with
  | nil => simp [performAll] at hrecords
  | cons item rest ih =>
    obtain ⟨thread', operation⟩ := item
    rw [performAll_cons] at hrecords
    cases before with
    | nil =>
      obtain ⟨hfirst, -⟩ := List.cons.inj hrecords
      obtain ⟨-, rfl, rfl⟩ := Performed.mk.inj hfirst
      rw [show Performed.joined [] = ([] : List (Method T β)) from rfl, List.append_nil]
      exact congrArg Operation.Answer.found (hg.answer_lookup concrete)
    | cons r before =>
      obtain ⟨rfl, hrest⟩ := List.cons.inj hrecords
      have hstep := (Becomes.start.perform thread' operation : g.Becomes _ _)
      have hname : (g.perform operation).2.name = g.name := congrArg (·.1) hstep.profile_eq
      rw [ih (hg.perform operation) hrest, hname, hstep.methods_eq, List.nil_append,
        List.append_assoc, Performed.joined_cons]

/-! ## Lookups alone -/

omit [DecidableEq T] [Descriptor T] in
theorem attempted?_of_perm {operations others : List (Operation T β)}
    (hperm : operations.Perm others) (h : ∀ operation ∈ operations, operation.attempted? = none) :
    ∀ operation ∈ others, operation.attempted? = none :=
  fun operation hmem => h operation (hperm.mem_iff.2 hmem)

theorem Coherent.performAll_of_lookups {g' : GenericFunction T β} (hg : g.Coherent)
    (hg' : g'.Coherent) (halike : g'.Alike g)
    (hlookups : ∀ operation ∈ schedule.map (·.2), operation.attempted? = none) :
    (g'.performAll schedule).1 =
      schedule.map fun item => ⟨item.1, item.2, (g.perform item.2).1⟩ := by
  induction schedule generalizing g' with
  | nil => rfl
  | cons item rest ih =>
    obtain ⟨thread, operation⟩ := item
    obtain ⟨hfirst, hrest⟩ := List.forall_mem_cons.1 hlookups
    cases operation with
    | register m => cases hfirst
    | lookup concrete =>
      have hanswer : (g'.perform (.lookup concrete)).1 = (g.perform (.lookup concrete)).1 := by
        simp only [GenericFunction.perform]
        rw [hg'.answer_lookup, hg.answer_lookup, halike.effective]
      have hnext := g'.alike_lookup concrete
      rw [performAll_cons, hanswer, ih (hg'.perform _) _ hrest]
      · rfl
      · exact ⟨hnext.name.trans halike.name, hnext.arity.trans halike.arity,
          hnext.methods.trans halike.methods⟩

theorem seenBy_performAll_of_lookups (hg : g.Coherent) (hinterleaves : Interleaves threads schedule)
    (hlookups : ∀ operation ∈ threads.flatten, operation.attempted? = none) (thread : Nat) :
    Performed.seenBy thread (g.performAll schedule).1 =
      (threads[thread]?.getD []).map fun operation => (operation, (g.perform operation).1) := by
  have hlookups' := attempted?_of_perm hinterleaves.perm.symm hlookups
  rw [hg.performAll_of_lookups hg (.refl g) hlookups', ← hinterleaves.of_thread thread,
    Performed.seenBy, List.filter_map, List.map_map, List.map_map]
  rfl

omit [DecidableEq T] [Descriptor T] in
theorem joins_turn_of_lookup {r : Performed T β} (h : r.operation.attempted? = none) :
    r.turn.joins = false ∧ r.turn.joined? = none := by
  obtain ⟨thread, m | concrete, answer⟩ := r
  · cases h
  · exact ⟨rfl, rfl⟩

section

variable (hlookups : ∀ operation ∈ schedule.map (·.2), operation.attempted? = none)

include hlookups

theorem attempted?_of_mem_performAll (g : GenericFunction T β) {r : Performed T β}
    (hr : r ∈ (g.performAll schedule).1) : r.operation.attempted? = none := by
  apply hlookups
  rw [← operations_performAll g]
  exact List.mem_map_of_mem hr

theorem joins_performAll_of_lookups (g : GenericFunction T β) :
    ∀ turn ∈ (g.performAll schedule).1.map Performed.turn, turn.joins = false := by
  intro turn hturn
  obtain ⟨r, hr, rfl⟩ := List.mem_map.1 hturn
  exact (joins_turn_of_lookup (attempted?_of_mem_performAll hlookups g hr)).1

theorem alike_performAll_of_lookups (g : GenericFunction T β) : (g.performAll schedule).2.Alike g := by
  have hprofile := (Becomes.start.performAll schedule : g.Becomes _ _).profile_eq
  have hnone : Performed.joined (g.performAll schedule).1 = [] :=
    List.filterMap_eq_nil_iff.2 fun r hr =>
      (joins_turn_of_lookup (attempted?_of_mem_performAll hlookups g hr)).2
  refine ⟨congrArg (·.1) hprofile, congrArg (·.2.1) hprofile, ?_⟩
  rw [methods_performAll, hnone, List.append_nil]

end

theorem Coherent.cached?_eq (hg : g.Coherent) (concrete : Signature T) :
    g.cached? concrete = if concrete ∈ g.keys then some (g.effective concrete) else none := by
  by_cases hmem : concrete ∈ g.keys
  · obtain ⟨chain, hchain⟩ := exists_cached_of_mem_keys hmem
    rw [if_pos hmem, hchain, hg.eq_effective hchain]
  · rw [if_neg hmem, cached?_eq_none_iff.2 hmem]

section

variable {name : String} {arity : Nat} {config : Config}
  (h : Becomes (β := β) { name, arity, config } past g)
  (hlookups : ∀ operation ∈ schedule.map (·.2), operation.attempted? = none)

include h

theorem keys_performAll_of_disabled (hdisabled : config.cache.enabled = false)
    (schedule : List (Nat × Operation T β)) : (g.performAll schedule).2.keys = [] := by
  obtain ⟨events, hbalanced, -⟩ :=
    (h.performAll schedule).exists_balanced (balanced_create name arity config)
  have hcached := (hbalanced.uncached ((h.performAll schedule).config_eq ▸ hdisabled)).2
  rw [keys, List.eq_nil_of_length_eq_zero hcached, List.map_nil]

include hlookups

theorem mem_keys_performAll_of_lookups (henabled : config.cache.enabled = true)
    {concrete : Signature T} : concrete ∈ (g.performAll schedule).2.keys ↔
      concrete ∈ (schedule.map (·.2)).filterMap Operation.asked? ∨ concrete ∈ Turn.epoch past := by
  rw [(h.performAll schedule).mem_keys_iff henabled rfl,
    Turn.mem_epoch_append (joins_performAll_of_lookups hlookups g), asked_performAll]

theorem perm_keys_performAll (hperm : (schedule.map (·.2)).Perm (other.map (·.2))) :
    (g.performAll schedule).2.keys.Perm (g.performAll other).2.keys := by
  have hlookups' := attempted?_of_perm hperm hlookups
  cases henabled : config.cache.enabled with
  | false =>
    rw [keys_performAll_of_disabled h henabled, keys_performAll_of_disabled h henabled]
  | true =>
    rw [List.perm_ext_iff_of_nodup ((h.performAll schedule).nodup_keys henabled rfl)
      ((h.performAll other).nodup_keys henabled rfl)]
    intro concrete
    rw [mem_keys_performAll_of_lookups h hlookups henabled,
      mem_keys_performAll_of_lookups h hlookups' henabled, (hperm.filterMap _).mem_iff]

theorem cached?_performAll (hperm : (schedule.map (·.2)).Perm (other.map (·.2)))
    (concrete : Signature T) :
    (g.performAll schedule).2.cached? concrete = (g.performAll other).2.cached? concrete := by
  have hlookups' := attempted?_of_perm hperm hlookups
  have hcoherent : ∀ schedule, (g.performAll schedule).2.Coherent := fun schedule =>
    (h.performAll schedule).coherent (coherent_of_cache_eq_nil rfl)
  rw [(hcoherent schedule).cached?_eq, (hcoherent other).cached?_eq,
    (alike_performAll_of_lookups hlookups g).effective,
    (alike_performAll_of_lookups hlookups' g).effective]
  simp only [(perm_keys_performAll h hlookups hperm).mem_iff]

theorem counters_performAll (hperm : (schedule.map (·.2)).Perm (other.map (·.2))) :
    (g.performAll schedule).2.stats.cacheHits = (g.performAll other).2.stats.cacheHits ∧
      (g.performAll schedule).2.stats.resolutions = (g.performAll other).2.stats.resolutions := by
  have hlookups' := attempted?_of_perm hperm hlookups
  obtain ⟨events, hbalanced, -⟩ := h.exists_balanced (balanced_create name arity config)
  have hrun : ∀ schedule, g.Becomes _ (g.performAll schedule).2 := fun schedule =>
    Becomes.start.performAll schedule
  obtain ⟨more, hmore, hkept⟩ := (hrun schedule).exists_balanced hbalanced
  obtain ⟨more', hmore', hkept'⟩ := (hrun other).exists_balanced hbalanced
  have hdropped := hkept (joins_performAll_of_lookups hlookups g)
  have hdropped' := hkept' (joins_performAll_of_lookups hlookups' g)
  have hconfig : ∀ schedule, (g.performAll schedule).2.config = config := fun schedule =>
    (h.performAll schedule).config_eq
  have hinvocations : (g.performAll schedule).2.stats.invocations =
      (g.performAll other).2.stats.invocations := invocations_performAll hperm
  have hsum := hmore.invocations
  have hsum' := hmore'.invocations
  cases henabled : config.cache.enabled with
  | true =>
    -- What was dropped was dropped before the run, so the caches in the end tell the chains built.
    have hbuilt := hmore.cached (hconfig schedule ▸ henabled)
    have hbuilt' := hmore'.cached (hconfig other ▸ henabled)
    have hlength := (perm_keys_performAll h hlookups hperm).length_eq
    simp only [keys, List.length_map] at hlength
    simp only [Event.dropped_append, hdropped, cachedSignatures] at hbuilt
    simp only [Event.dropped_append, hdropped', cachedSignatures] at hbuilt'
    omega
  | false =>
    have hnone := (hmore.uncached (hconfig schedule ▸ henabled)).1
    have hnone' := (hmore'.uncached (hconfig other ▸ henabled)).1
    omega

end

/-! ## All interleavings -/

/-- What one run of the threads gives: of the attempts on a free signature one succeeds, and every
lookup finds the chain of the methods that are there by then. -/
structure Admits (g : GenericFunction T β) (threads : List (List (Operation T β)))
    (records : List (Performed T β)) (final : GenericFunction T β) : Prop where
  admitted : ∀ signature ∈ threads.flatten.filterMap Operation.attempted?,
    (Performed.joined records).countP (·.signature = signature) =
      if signature ∈ g.signatures then 0 else 1
  methods : final.methods = g.methods ++ Performed.joined records
  found : ∀ before thread concrete answer after,
    records = before ++ ⟨thread, .lookup concrete, answer⟩ :: after →
    answer = .found (Chain.effective g.name (g.methods ++ Performed.joined before) concrete)

theorem interleavings_agree {name : String} {arity : Nat} {config : Config}
    (h : Becomes (β := β) { name, arity, config } past g) (threads : List (List (Operation T β))) :
    (∀ schedule, Interleaves threads schedule →
      g.Admits threads (g.performAll schedule).1 (g.performAll schedule).2) ∧
    ∀ schedule other, Interleaves threads schedule → Interleaves threads other →
      let final := (g.performAll schedule).2
      let final' := (g.performAll other).2
      final.signatures.Perm final'.signatures ∧
      final.stats.registrations = final'.stats.registrations ∧
      final.stats.invocations = final'.stats.invocations ∧
      ((∀ operation ∈ threads.flatten, operation.attempted? = none) →
        (∀ thread, Performed.seenBy thread (g.performAll schedule).1 =
          Performed.seenBy thread (g.performAll other).1) ∧
        final.stats.cacheHits = final'.stats.cacheHits ∧
        final.stats.resolutions = final'.stats.resolutions ∧
        ∀ concrete, final.cached? concrete = final'.cached? concrete) := by
  have hcoherent := h.coherent (coherent_of_cache_eq_nil rfl)
  refine ⟨fun schedule hschedule => ⟨?_, methods_performAll g schedule, ?_⟩, ?_⟩
  · intro signature hsignature
    exact countP_joined_performAll h ((hschedule.perm.filterMap _).mem_iff.2 hsignature)
  · intro before thread concrete answer after hrecords
    exact hcoherent.answer_performAll hrecords
  · intro schedule other hschedule hother final final'
    have hperm := hschedule.perm.trans hother.perm.symm
    refine ⟨perm_signatures_performAll h hperm, registrations_performAll h hperm,
      invocations_performAll hperm, fun hlookups => ?_⟩
    have hlookups' := attempted?_of_perm hschedule.perm.symm hlookups
    obtain ⟨hhits, hresolutions⟩ := counters_performAll h hlookups' hperm
    refine ⟨fun thread => ?_, hhits, hresolutions, cached?_performAll h hlookups' hperm⟩
    rw [seenBy_performAll_of_lookups hcoherent hschedule hlookups,
      seenBy_performAll_of_lookups hcoherent hother hlookups]

theorem interleavings_agree_race :
    let g : GenericFunction Diamond (Body Diamond Diamond Unit String) := { name := "f", arity := 1 }
    let a : Operation Diamond (Body Diamond Diamond Unit String) := .register (Diamond.leaf "a" .bottom)
    let b : Operation Diamond (Body Diamond Diamond Unit String) := .register (Diamond.inner "b" .bottom)
    let bottom : Operation Diamond (Body Diamond Diamond Unit String) := .lookup ⟨[.bottom]⟩
    let left : Operation Diamond (Body Diamond Diamond Unit String) := .lookup ⟨[.left]⟩
    let first := [(0, a), (0, bottom), (1, bottom), (1, b)]
    let second := [(1, bottom), (1, b), (0, a), (0, bottom)]
    let third := [(0, bottom), (0, left), (1, left)]
    let fourth := [(1, left), (0, bottom), (0, left)]
    Interleaves [[a, bottom], [bottom, b]] first ∧ Interleaves [[a, bottom], [bottom, b]] second ∧
    (g.performAll first).2.methods.map (·.kind) = [.leaf] ∧
    (g.performAll second).2.methods.map (·.kind) = [.inner] ∧
    (Performed.joined (g.performAll second).1).countP (·.signature = ⟨[.bottom]⟩) = 1 ∧
    (g.performAll first).2.signatures.Perm (g.performAll second).2.signatures ∧
    (g.performAll third).2.stats.cacheHits = 1 ∧
    (g.performAll third).2.stats.cacheHits = (g.performAll fourth).2.stats.cacheHits := by
  intro g a b bottom left first second third fourth
  have hfirst : Interleaves [[a, bottom], [bottom, b]] first :=
    .step rfl (.step rfl (.step rfl (.step rfl (.done (by decide +kernel)))))
  have hsecond : Interleaves [[a, bottom], [bottom, b]] second :=
    .step rfl (.step rfl (.step rfl (.step rfl (.done (by decide +kernel)))))
  have hthird : Interleaves [[bottom, left], [left]] third :=
    .step rfl (.step rfl (.step rfl (.done (by decide +kernel))))
  have hfourth : Interleaves [[bottom, left], [left]] fourth :=
    .step rfl (.step rfl (.step rfl (.done (by decide +kernel))))
  have h : Becomes (β := Body Diamond Diamond Unit String)
    { name := "f", arity := 1, config := {} } [] g := .start
  obtain ⟨hone, htwo⟩ := interleavings_agree h [[a, bottom], [bottom, b]]
  have hlookups : ∀ operation ∈ [[bottom, left], [left]].flatten, operation.attempted? = none := by
    decide +kernel
  obtain ⟨-, -, -, hreaders⟩ :=
    (interleavings_agree h [[bottom, left], [left]]).2 third fourth hthird hfourth
  refine ⟨hfirst, hsecond, by decide +kernel, by decide +kernel, ?_, ?_, by decide +kernel, ?_⟩
  · exact (hone second hsecond).admitted ⟨[.bottom]⟩ (by decide +kernel)
  · exact (htwo first second hfirst hsecond).1
  · exact (hreaders hlookups).2.1

end GenericFunction

end Multimethod
