import Multimethod.Proofs.Chain.Effective
import Multimethod.Proofs.Diamond
import Multimethod.Proofs.Function
import Multimethod.Proofs.Store.Requests

/-! # The cache never lies -/

namespace Multimethod.Store

variable {A T ρ R : Type} [Descriptor T] {s : Store A T ρ R}

/-! ## What a store keeps -/

def Coherent (s : Store A T ρ R) : Prop := ∀ g ∈ s.functions, g.Coherent

variable [DecidableEq T] [Typed A T]

theorem Reachable.coherent (h : s.Reachable) : s.Coherent :=
  h.forall_functions (fun _ _ _ => GenericFunction.coherent_of_cache_eq_nil rfl)
    (fun _ m hg => hg.register m) fun _ concrete hg => hg.lookup concrete

theorem Reachable.answer_lookup (h : s.Reachable) {f : Nat}
    {g : GenericFunction T (Body A T ρ R)} (hg : s.functions[f]? = some g) (concrete : Signature T) :
    (g.lookup concrete).answer = g.effective concrete :=
  (h.coherent g (List.mem_of_getElem? hg)).answer_lookup concrete

/-- At every moment, be it in the middle of a body, all cached chains are those of the methods as they
are, and a call runs the chain that the methods give at its lookup. -/
theorem calls_run_chain_of_current_methods (h : s.Reachable) :
    s.Coherent ∧
    (∀ depth f g arguments, s.functions[f]? = some g → g.arity = arguments.length →
      s.invoke (depth + 1) f arguments =
        ((g.effective (Signature.of arguments)).run (Store.invoke depth) arguments
          (s.commit f (g.lookup (Signature.of arguments)))).map fun r =>
            (r.1.mapError .raised, r.2)) ∧
    ∀ depth f arguments,
      (∀ answer s', s.invoke depth f arguments = some (answer, s') →
        s' = s.after (s.deeds depth f arguments)) ∧
      ∀ done f' arguments' chain rest,
        s.deeds depth f arguments = done ++ .lookup f' arguments' chain :: rest →
        (s.after done).Reachable ∧ ∃ g, (s.after done).functions[f']? = some g ∧
          g.arity = arguments'.length ∧ chain = g.effective (Signature.of arguments') := by
  refine ⟨h.coherent, fun depth f g arguments hg harity => ?_, fun depth f arguments =>
    ⟨fun answer s' => eq_after_of_invoke, fun done f' arguments' chain rest hdeeds => ?_⟩⟩
  · rw [invoke_succ hg harity, h.answer_lookup hg]
  · -- The store at the lookup is itself one that a program comes to.
    have hreach := h.during hdeeds
    have hhold := (tell_deeds depth f arguments s).hold
    rw [hdeeds, Deed.allHold_append] at hhold
    obtain ⟨g, hg, harity, hchain⟩ := hhold.2.1
    exact ⟨hreach, g, hg, harity, by rw [hchain, hreach.answer_lookup hg]⟩

/-- The method that answers is the one that was added while the call was running. -/
theorem calls_run_chain_of_current_methods_learner :
    let s := (Store.serveAll 2 { scope := () } [.create "f" 1 {}, .register 0 (Diamond.learner 0)]).2
    let s' := (s.serve 2 (.invoke 0 [Diamond.bottom])).2
    (s.invoke 2 0 [Diamond.bottom]).map (·.1) = some (.ok "learnt") ∧
    (Deed.started (s.deeds 2 0 [Diamond.bottom])).map (·.signature) = [⟨[.top]⟩, ⟨[.bottom]⟩] ∧
    s'.Reachable ∧ s'.functions.map (·.cachedSignatures) = [1] ∧ s'.Coherent := by
  intro s s'
  have h' : s'.Reachable := ((Reachable.start ()).serveAll 2
    [.create "f" 1 {}, .register 0 (Diamond.learner 0)]).serve 2 (.invoke 0 [Diamond.bottom])
  exact ⟨by decide +kernel, by decide +kernel, h', by decide +kernel,
    (calls_run_chain_of_current_methods h').1⟩

end Multimethod.Store
