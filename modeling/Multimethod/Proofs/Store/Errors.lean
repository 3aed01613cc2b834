import Multimethod.Proofs.Chain.Ends
import Multimethod.Proofs.Function.Attempts
import Multimethod.Proofs.Hierarchy.Signatures
import Multimethod.Proofs.Store.Dispatch
import Multimethod.Proofs.Store.Visits

/-! # What errors tell -/

namespace Multimethod

variable {A T ρ R : Type}

/-! ## Bodies that make no errors -/

/-- The body fails with no error but one of these, or one that the next link failed with. -/
def Action.Forwards : {k : Kind} → Action A T ρ R k → List (DispatchError A T) → Prop
  | _, .done _, _ => True
  | _, .log _ rest, errors => rest.Forwards errors
  | _, .ask use, errors => ∀ scope, (use scope).Forwards errors
  | _, .size _ use, errors => ∀ n, (use n).Forwards errors
  | _, .cached _ use, errors => ∀ n, (use n).Forwards errors
  | _, .invoke _ _ use, errors => ∀ answer, (use answer).Forwards errors
  | _, .register _ _ _ _ use, errors => ∀ answer, (use answer).Forwards errors
  | _, .next use, errors =>
    (∀ result, (use (.ok result)).Forwards errors) ∧
      ∀ error, (use (.error error)).Forwards (error :: errors)
  | _, .describe use, errors => ∀ outline, (use outline).Forwards errors
  | _, .fail error, errors => error ∈ errors

section

variable [DecidableEq T]
  {call : Nat → List A → Run A T ρ R (Except (Fault (DispatchError A T)) R)}
  {s t : Store A T ρ R} {error : DispatchError A T}

theorem Action.error_mem_of_run {k : Kind} {a : Action A T ρ R k} {below : k = .inner → Below A T ρ R}
    {errors : List (DispatchError A T)} (ha : a.Forwards errors)
    (h : a.run call below s = some (.error error, t)) :
    error ∈ errors ∨ ∃ hk, ∃ u ∈ a.onward call below s, ∃ v,
      (below hk).run u = some (.error error, v) := by
  induction a generalizing s errors with
  | done result => cases h
  | log line rest ih => exact ih ha h
  | ask use ih => exact ih _ (ha _) h
  | size f use ih => exact ih _ (ha _) h
  | cached f use ih => exact ih _ (ha _) h
  | invoke f arguments use ih =>
    simp only [Action.run] at h
    rw [Action.onward]
    rcases hanswer : call f arguments s with _ | ⟨answer, s'⟩
    · simp [hanswer] at h
    · simp only [hanswer] at h
      exact ih answer (ha answer) h
  | register f signature kind body use ihbody ih => exact ih _ (ha _) h
  | next use ih =>
    simp only [Action.run] at h
    rw [Action.onward]
    rcases hanswer : (below rfl).run s with _ | ⟨raised | result, s'⟩
    · simp [hanswer] at h
    · simp only [hanswer] at h
      rcases ih _ (ha.2 raised) h with hmem | ⟨hk, u, hu, hrun⟩
      · rcases List.mem_cons.1 hmem with rfl | hmem
        · exact Or.inr ⟨rfl, s, List.mem_cons_self, s', hanswer⟩
        · exact Or.inl hmem
      · exact Or.inr ⟨hk, u, List.mem_cons_of_mem _ hu, hrun⟩
    · simp only [hanswer] at h
      refine (ih _ (ha.1 result) h).imp_right ?_
      rintro ⟨hk, u, hu, hrun⟩
      exact ⟨hk, u, List.mem_cons_of_mem _ hu, hrun⟩
  | describe use ih => exact ih _ (ha _) h
  | fail error =>
    cases h
    exact Or.inl ha

theorem Action.run_ne_error {k : Kind} {a : Action A T ρ R k} (hk : k = .leaf)
    {below : k = .inner → Below A T ρ R} : a.run call below s ≠ some (.error error, t) := by
  intro h
  obtain ⟨result, hresult⟩ := a.run_of_leaf call hk below s
  cases result <;> cases hresult.symm.trans h

theorem Chain.raises_mem_visits_of_run {arguments : List A} {chain : Chain T (Body A T ρ R)}
    (hforwards : ∀ signature body, ⟨signature, .inner, body⟩ ∈ chain.methods →
      (body arguments).Forwards [])
    (h : chain.run call arguments s = some (.error error, t)) :
    .raises error ∈ chain.visits call arguments s := by
  induction chain generalizing s t with
  | leaf signature body => exact absurd h (Action.run_ne_error rfl)
  | inner signature body next ih =>
    have hbody := hforwards signature body List.mem_cons_self
    obtain ⟨-, u, hu, v, hrun⟩ := (Action.error_mem_of_run hbody h).resolve_left List.not_mem_nil
    refine List.mem_cons_of_mem _ (List.mem_flatMap.2 ⟨u, hu, ih (fun other body' hmem => ?_) hrun⟩)
    exact hforwards other body' (List.mem_cons_of_mem _ hmem)
  | stop cause origin =>
    cases h
    exact List.mem_singleton_self _

end

/-! ## Truth -/

section

variable [Descriptor T]

/-- What the error says holds of a call of the function with these arguments, after these visits. -/
structure DispatchError.Tells (e : DispatchError A T) (g : GenericFunction T (Body A T ρ R))
    (concrete : Signature T) (arguments : List A) (before : List (Visit A T ρ R)) : Prop where
  operation : e.operation = g.name
  signature : e.signature = concrete
  arguments : e.arguments = arguments
  missing : e.isMissing = true →
    before = [] ∧ ∀ m ∈ g.methods, ¬ m.signature.accepts concrete = true
  exhausted : e.isExhausted = true →
    ∃ m ∈ (g.effective concrete).methods, m.kind = .inner ∧ .begins m ∈ before
  ambiguous : e.isAmbiguous = true →
    2 ≤ e.candidates.length ∧ e.candidates.Nodup ∧ e.candidates.Sublist g.signatures ∧
      (∀ p ∈ e.candidates, p.accepts concrete = true) ∧
      ∀ p ∈ e.candidates, ∀ q ∈ e.candidates, ¬ p.strictlyImplies q = true

variable [DecidableEq T]

namespace GenericFunction

theorem tells_of_visits {g : GenericFunction T (Body A T ρ R)} (hdistinct : g.signatures.Nodup)
    {concrete : Signature T}
    {call : Nat → List A → Run A T ρ R (Except (Fault (DispatchError A T)) R)} {arguments : List A}
    {s : Store A T ρ R} {before after : List (Visit A T ρ R)} {error : DispatchError A T}
    (h : (g.effective concrete).visits call arguments s = before ++ .raises error :: after) :
    error.Tells g concrete arguments before := by
  have hraises : .raises error ∈ (g.effective concrete).visits call arguments s := by simp [h]
  obtain ⟨cause, origin, hlink, rfl⟩ := Chain.exists_stop_of_raises hraises
  obtain ⟨rfl, -⟩ := Chain.cause_of_stop_mem_links_effective hlink
  have hhead := Chain.visits_before_raises h
  cases cause with
  | missing =>
    have hnone := Chain.no_applicable_of_missing_mem_links hlink
    refine ⟨rfl, rfl, rfl, fun _ => ⟨?_, List.filter_eq_nil_iff.1 hnone⟩, by rintro ⟨⟩, by rintro ⟨⟩⟩
    -- Nothing applies, so the chain has no link but this one.
    rw [effective, Chain.effective_of_no_applicable hnone] at hhead
    exact (hhead.resolve_right (by rintro ⟨_, _, _, ⟨⟩, -⟩)).2
  | exhausted =>
    refine ⟨rfl, rfl, rfl, by rintro ⟨⟩, fun _ => ?_, by rintro ⟨⟩⟩
    rcases hhead with ⟨⟨_, _, hstop⟩, -⟩ | ⟨signature, body, next, hchain, hbegins⟩
    · rw [hstop] at hlink
      obtain ⟨rfl, rfl⟩ := Chain.stop.inj (List.mem_singleton.1 hlink)
      exact absurd hstop (Chain.effective_ne_exhausted _ _ _ _)
    · exact ⟨_, hchain ▸ List.mem_cons_self, rfl, hbegins⟩
  | ambiguous candidates =>
    obtain ⟨hlayer, hlength⟩ := mem_applicable_of_tie_mem_links hlink
    have hsublist := sublist_of_mem_applicable hlayer
    exact ⟨rfl, rfl, rfl, by rintro ⟨⟩, by rintro ⟨⟩, fun _ => ⟨hlength, hdistinct.sublist hsublist,
      hsublist, accepts_of_mem_applicable hlayer, not_strictlyImplies_of_mem_applicable hlayer⟩⟩

end GenericFunction

end

namespace Store

variable [DecidableEq T] [Descriptor T] [Typed A T] {s : Store A T ρ R} {f : Nat}
  {g : GenericFunction T (Body A T ρ R)}

theorem Reachable.nodup_signatures (h : s.Reachable) (hg : s.functions[f]? = some g) :
    g.signatures.Nodup := by
  refine h.forall_functions (Q := fun g => g.signatures.Nodup) (fun _ _ _ => List.nodup_nil)
    (fun _ m hg => GenericFunction.nodup_signatures_register hg m) (fun g concrete hg => ?_) g
    (List.mem_of_getElem? hg)
  rwa [GenericFunction.signatures, GenericFunction.methods_lookup]

/-- An error tells the function, the arguments and their types as they are in its own call, also
from a cached chain and any number of links down. -/
theorem errors_tell_truth (h : s.Reachable) (hg : s.functions[f]? = some g) {arguments : List A}
    (harity : g.arity = arguments.length) (depth : Nat) :
    let concrete := Signature.of arguments
    let chain := (g.lookup concrete).answer
    let found := s.commit f (g.lookup concrete)
    let visits := chain.visits (Store.invoke depth) arguments found
    (∀ before error after, visits = before ++ .raises error :: after →
      error.Tells g concrete arguments before) ∧
    ((∀ signature body, ⟨signature, .inner, body⟩ ∈ chain.methods → (body arguments).Forwards []) →
      ∀ fault t, s.invoke (depth + 1) f arguments = some (.error fault, t) →
        ∃ error, fault = .raised error ∧ .raises error ∈ visits) ∧
    (∀ cause origin, chain = .stop cause origin →
      s.invoke (depth + 1) f arguments =
        some (.error (.raised ⟨cause, origin, arguments⟩), found)) ∧
    (Visit.begun visits).Sublist (Deed.started (s.deeds (depth + 1) f arguments)) := by
  intro concrete chain found visits
  have hchain : chain = g.effective concrete := h.answer_lookup hg concrete
  refine ⟨fun before error after hvisits => ?_, fun hforwards fault t hinvoke => ?_,
    fun cause origin hstop => ?_, ?_⟩
  · have heffective := hvisits
    simp only [visits, hchain] at heffective
    exact GenericFunction.tells_of_visits (h.nodup_signatures hg) heffective
  · rw [invoke_succ hg harity, Option.map_eq_some_iff] at hinvoke
    obtain ⟨⟨error | result, u⟩, hrun, hanswer⟩ := hinvoke
    · obtain rfl : Fault.raised error = fault := Except.error.inj (Prod.mk.inj hanswer).1
      exact ⟨error, rfl, Chain.raises_mem_visits_of_run hforwards hrun⟩
    · cases hanswer
  · exact (invoke_of_effective_eq_stop h hg harity (hchain.symm.trans hstop) depth).1
  · rw [deeds_succ hg harity]
    exact Chain.begun_visits_sublist_started chain found

theorem errors_tell_truth_cached :
    let pass : Method Tag (Body (Tagged Nat) Tag Unit Nat) :=
      ⟨⟨[Namesakes.object]⟩, .inner, fun _ => .pass⟩
    let first : List (Tagged Nat) := [⟨Namesakes.left, 1⟩]
    let second : List (Tagged Nat) := [⟨Namesakes.left, 2⟩]
    let s := (Store.serveAll 1 { scope := () }
      [.create "f" 1 {}, .register 0 pass, .invoke 0 first]).2
    let error : DispatchError (Tagged Nat) Tag :=
      ⟨.exhausted, ⟨"f", ⟨[Namesakes.left]⟩⟩, second⟩
    s.Reachable ∧ s.cached 0 = 1 ∧
    (s.invoke 1 0 second).map (·.1) = some (.error (.raised error)) ∧
    ∃ g, s.functions[0]? = some g ∧ error.Tells g (Signature.of second) second [.begins pass] := by
  intro pass first second s error
  have h := (Reachable.start (A := Tagged Nat) (T := Tag) (R := Nat) ()).serveAll 1
    [.create "f" 1 {}, .register 0 pass, .invoke 0 first]
  obtain ⟨g, hg, harity, hvisits⟩ : ∃ g, s.functions[0]? = some g ∧ g.arity = second.length ∧
      (g.lookup (Signature.of second)).answer.visits (Store.invoke 0) second
        (s.commit 0 (g.lookup (Signature.of second))) = [.begins pass, .raises error] :=
    ⟨_, by with_unfolding_all rfl, by with_unfolding_all rfl, by with_unfolding_all rfl⟩
  exact ⟨h, by decide +kernel, by decide +kernel, g, hg,
    (errors_tell_truth h hg harity 0).1 [.begins pass] error [] hvisits⟩

end Store

end Multimethod
