import Multimethod.Proofs.Chain.Effective
import Multimethod.Proofs.Store.Coherence

/-! # Which method a call runs -/

namespace Multimethod

variable {A T ρ R : Type} [DecidableEq T]

theorem Action.run_of_leaf (call : Nat → List A → Run A T ρ R (Except (Fault (DispatchError A T)) R))
    {k : Kind} (a : Action A T ρ R k) (hk : k = .leaf) (below : k = .inner → Below A T ρ R)
    (s : Store A T ρ R) :
    ∃ result : Option (R × Store A T ρ R), a.run call below s = result.map fun r => (.ok r.1, r.2) := by
  induction a generalizing s with
  | done result => exact ⟨some (result, s), rfl⟩
  | log line rest ih => exact ih hk below _
  | ask use ih => exact ih _ hk below s
  | size f use ih => exact ih _ hk below s
  | cached f use ih => exact ih _ hk below s
  | invoke f arguments use ih =>
    simp only [Action.run]
    rcases call f arguments s with _ | ⟨answer, s'⟩
    · exact ⟨none, rfl⟩
    · exact ih answer hk below s'
  | register f signature kind body use ihbody ih => exact ih _ hk below _
  | next use ih => cases hk
  | describe use ih => cases hk
  | fail error => cases hk

variable [Descriptor T] [Typed A T]

namespace Store

section

variable {s : Store A T ρ R} {f : Nat} {g : GenericFunction T (Body A T ρ R)} {arguments : List A}

theorem invoke_of_effective_eq_stop (h : s.Reachable) (hg : s.functions[f]? = some g)
    (harity : g.arity = arguments.length) {cause : Cause T} {origin : Origin T}
    (hchain : g.effective (Signature.of arguments) = .stop cause origin) (depth : Nat) :
    s.invoke (depth + 1) f arguments = some (.error (.raised ⟨cause, origin, arguments⟩),
      s.commit f (g.lookup (Signature.of arguments))) ∧
    Deed.started (s.deeds (depth + 1) f arguments) = [] := by
  rw [invoke_succ hg harity, deeds_succ hg harity, h.answer_lookup hg, hchain]
  exact ⟨rfl, rfl⟩

theorem head_started_of_effective_eq_bind (h : s.Reachable) (hg : s.functions[f]? = some g)
    (harity : g.arity = arguments.length) {m : Method T (Body A T ρ R)}
    {next : Chain T (Body A T ρ R)}
    (hchain : g.effective (Signature.of arguments) = Chain.bind m next) (depth : Nat) :
    (Deed.started (s.deeds (depth + 1) f arguments)).head? = some m := by
  rw [deeds_succ hg harity, h.answer_lookup hg, hchain]
  obtain ⟨_, _ | _, _⟩ := m <;> rfl

theorem invoke_of_effective_eq_bind (h : s.Reachable) (hg : s.functions[f]? = some g)
    (harity : g.arity = arguments.length) {m : Method T (Body A T ρ R)}
    {next : Chain T (Body A T ρ R)}
    (hchain : g.effective (Signature.of arguments) = Chain.bind m next) (depth : Nat) :
    ∃ below, s.invoke (depth + 1) f arguments =
      ((m.body arguments).run (Store.invoke depth) below
        (s.commit f (g.lookup (Signature.of arguments)))).map fun r =>
          (r.1.mapError .raised, r.2) := by
  rw [invoke_succ hg harity, h.answer_lookup hg, hchain]
  obtain ⟨_, _ | _, _⟩ := m <;> exact ⟨_, rfl⟩

theorem invoke_of_effective_eq_leaf (h : s.Reachable) (hg : s.functions[f]? = some g)
    (harity : g.arity = arguments.length) {signature : Signature T} {body : Body A T ρ R .leaf}
    (hchain : g.effective (Signature.of arguments) = .leaf signature body) (depth : Nat) :
    ∃ result : Option (R × Store A T ρ R), (body arguments).run (Store.invoke depth) nofun
        (s.commit f (g.lookup (Signature.of arguments))) = result.map (fun r => (.ok r.1, r.2)) ∧
      s.invoke (depth + 1) f arguments = result.map fun r => (.ok r.1, r.2) := by
  obtain ⟨result, hresult⟩ := (body arguments).run_of_leaf (Store.invoke depth) rfl nofun
    (s.commit f (g.lookup (Signature.of arguments)))
  refine ⟨result, hresult, ?_⟩
  rw [invoke_succ hg harity, h.answer_lookup hg, hchain]
  exact (congrArg (Option.map _) hresult).trans (Option.map_map _ _ _)

end

/-- A call begins with the most specific method, and with a leaf it ends as well. If no method
applies, or if several tie, it fails without running a body. -/
theorem invoke_begins_with_mostSpecific [LawfulDescriptor T] {s : Store A T ρ R} (h : s.Reachable)
    {f : Nat} {g : GenericFunction T (Body A T ρ R)} (hg : s.functions[f]? = some g)
    {arguments : List A} (harity : g.arity = arguments.length) (depth : Nat) :
    let concrete := Signature.of arguments
    let applicable := Chain.applicable g.methods concrete
    let best := Chain.mostSpecific applicable
    let found := s.commit f (g.lookup concrete)
    let started := Deed.started (s.deeds (depth + 1) f arguments)
    (((∃ error s', s.invoke (depth + 1) f arguments = some (.error (.raised error), s') ∧
        error.isMissing = true) ∧ started = []) ↔ applicable = []) ∧
    (∀ m, best = [m] → started.head? = some m ∧
      (∃ below, s.invoke (depth + 1) f arguments =
        ((m.body arguments).run (Store.invoke depth) below found).map fun r =>
          (r.1.mapError .raised, r.2)) ∧
      ∀ signature body, m = ⟨signature, .leaf, body⟩ →
        ∃ result : Option (R × Store A T ρ R), (body arguments).run (Store.invoke depth) nofun found =
            result.map (fun r => (.ok r.1, r.2)) ∧
          s.invoke (depth + 1) f arguments = result.map fun r => (.ok r.1, r.2)) ∧
    (2 ≤ best.length →
      s.invoke (depth + 1) f arguments = some (.error (.raised
        ⟨.ambiguous (best.map (·.signature)), ⟨g.name, concrete⟩, arguments⟩), found) ∧
      started = []) := by
  intro concrete applicable best found started
  have hsingle : ∀ m, best = [m] → started.head? = some m := fun m hbest =>
    head_started_of_effective_eq_bind h hg harity (Chain.effective_of_single hbest) depth
  have htie := fun hbest : 2 ≤ best.length =>
    invoke_of_effective_eq_stop h hg harity (Chain.effective_of_tie hbest) depth
  refine ⟨⟨?_, fun hnone => ?_⟩, fun m hbest => ⟨hsingle m hbest,
    invoke_of_effective_eq_bind h hg harity (Chain.effective_of_single hbest) depth, ?_⟩, htie⟩
  · rintro ⟨⟨error, s', hinvoke, hmissing⟩, hstarted⟩
    -- A body may fail with any error, so it is the empty list of bodies that excludes one method.
    rcases hbest : best with _ | ⟨m, _ | ⟨other, rest⟩⟩
    · exact (Chain.mostSpecific_eq_nil_iff applicable).1 hbest
    · have hfirst := hsingle m hbest
      rw [hstarted] at hfirst
      cases hfirst
    · have hfails := (htie (by simp [hbest])).1
      rw [hfails] at hinvoke
      cases hinvoke
      cases hmissing
  · obtain ⟨hinvoke, hstarted⟩ :=
      invoke_of_effective_eq_stop h hg harity (Chain.effective_of_no_applicable hnone) depth
    exact ⟨⟨_, _, hinvoke, rfl⟩, hstarted⟩
  · rintro signature body rfl
    exact invoke_of_effective_eq_leaf h hg harity (Chain.effective_of_single hbest) depth

theorem invoke_begins_with_mostSpecific_diamond :
    let s := (Store.serveAll 1 { scope := () } [.create "f" 1 {},
      .register 0 (Diamond.leaf "r" .right), .register 0 (Diamond.leaf "t" .top),
      .register 0 (Diamond.inner "l" .left)]).2
    s.Reachable ∧
    ((s.invoke 1 0 [Diamond.bottom]).map (·.1)) =
      some (.error (.raised ⟨.ambiguous [⟨[.right]⟩, ⟨[.left]⟩], ⟨"f", ⟨[.bottom]⟩⟩, [.bottom]⟩)) ∧
    ((s.invoke 1 0 [Diamond.right]).map (·.1)) = some (.ok "r") ∧
    ((Deed.started (s.deeds 1 0 [Diamond.left])).head?.map (·.signature)) = some ⟨[.left]⟩ ∧
    ((s.invoke 1 0 [Diamond.left]).map (·.1)) = some (.ok "lt") := by
  have h := (Reachable.start (A := Diamond) (T := Diamond) (R := String) ()).serveAll 1
    [.create "f" 1 {}, .register 0 (Diamond.leaf "r" .right), .register 0 (Diamond.leaf "t" .top),
      .register 0 (Diamond.inner "l" .left)]
  have harity (d : Diamond) : 1 = [d].length := rfl
  have hbottom := invoke_begins_with_mostSpecific h (f := 0) rfl (harity .bottom) 0
  have hright := invoke_begins_with_mostSpecific h (f := 0) rfl (harity .right) 0
  have hleft := invoke_begins_with_mostSpecific h (f := 0) rfl (harity .left) 0
  obtain ⟨htie, -⟩ := hbottom.2.2 (by decide +kernel)
  obtain ⟨-, -, hleaf⟩ := hright.2.1 (Diamond.leaf "r" .right) rfl
  obtain ⟨hfirst, -, -⟩ := hleft.2.1 (Diamond.inner "l" .left) rfl
  refine ⟨h, ?_, ?_, ?_, by decide +kernel⟩
  · rw [htie]
    rfl
  · obtain ⟨_ | ⟨answer, s'⟩, hbody, hinvoke⟩ := hleaf _ _ rfl
    · cases hbody
    · cases hbody
      rw [hinvoke]
      rfl
  · exact congrArg (Option.map _) hfirst

end Store

end Multimethod
