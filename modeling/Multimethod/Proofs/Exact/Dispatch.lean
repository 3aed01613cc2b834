import Multimethod.Exact.Session
import Multimethod.Proofs.Specificity.Extremes
import Multimethod.Proofs.Store.Errors

/-! # Dispatch on exact types -/

namespace Multimethod

class ExactDescriptor (T : Type) [Descriptor T] : Prop where
  accepts_iff (a b : T) : Descriptor.accepts a b = true ↔ a = b

instance : ExactDescriptor ExactType where
  accepts_iff a b := by simp [Descriptor.accepts]

section

variable {T : Type} [Descriptor T] [ExactDescriptor T]

/-! ## Signatures -/

namespace Signature

theorem acceptsTypes_iff_eq (ps qs : List T) : acceptsTypes ps qs = true ↔ ps = qs := by
  induction ps generalizing qs with
  | nil => cases qs <;> simp [acceptsTypes]
  | cons p ps ih => cases qs <;> simp [acceptsTypes, ExactDescriptor.accepts_iff, ih]

theorem accepts_iff_eq (p q : Signature T) : p.accepts q = true ↔ p = q := by
  unfold accepts
  rw [acceptsTypes_iff_eq]
  exact ⟨congrArg Signature.mk, congrArg Signature.types⟩

end Signature

/-! ## The one method of a call -/

namespace GenericFunction

variable {β : Kind → Type} {g : GenericFunction T β} {concrete : Signature T} {m : Method T β}

theorem applicable_methods_of_not_mem (h : concrete ∉ g.signatures) :
    Chain.applicable g.methods concrete = [] := by
  unfold Chain.applicable
  rw [List.filter_eq_nil_iff]
  intro m hm haccepts
  rw [Signature.accepts_iff_eq] at haccepts
  exact h (haccepts ▸ List.mem_map_of_mem hm)

theorem applicable_methods_of_mem (hdistinct : g.signatures.Nodup) (hm : m ∈ g.methods) :
    Chain.applicable g.methods m.signature = [m] := by
  obtain ⟨front, back, hmethods⟩ := List.append_of_mem hm
  have hfree : m.signature ∉ (front ++ back).map (·.signature) := by
    unfold signatures at hdistinct
    rw [hmethods, List.map_append, List.map_cons, List.nodup_middle, ← List.map_append] at hdistinct
    exact (List.nodup_cons.1 hdistinct).1
  have hothers : ∀ other ∈ front ++ back, ¬ other.signature.accepts m.signature = true := by
    intro other hother haccepts
    rw [Signature.accepts_iff_eq] at haccepts
    exact hfree (haccepts ▸ List.mem_map_of_mem hother)
  rw [List.forall_mem_append] at hothers
  unfold Chain.applicable
  rw [hmethods, List.filter_append, List.filter_cons, List.filter_eq_nil_iff.2 hothers.1,
    List.filter_eq_nil_iff.2 hothers.2, if_pos ((Signature.accepts_iff_eq _ _).2 rfl)]
  rfl

theorem effective_of_not_mem (h : concrete ∉ g.signatures) :
    g.effective concrete = .stop .missing ⟨g.name, concrete⟩ :=
  Chain.effective_of_no_applicable (applicable_methods_of_not_mem h)

theorem layersFor_of_mem (hdistinct : g.signatures.Nodup) (hm : m ∈ g.methods) :
    Chain.layersFor g.methods m.signature = [[m]] := by
  unfold Chain.layersFor
  rw [applicable_methods_of_mem hdistinct hm, Specificity.layers_singleton]

theorem effective_of_mem (hdistinct : g.signatures.Nodup) (hm : m ∈ g.methods) :
    g.effective m.signature = Chain.bind m (.stop .exhausted ⟨g.name, m.signature⟩) := by
  have hsome : Chain.applicable g.methods m.signature ≠ [] := by
    simp [applicable_methods_of_mem hdistinct hm]
  unfold effective
  rw [Chain.effective_of_applicable hsome, layersFor_of_mem hdistinct hm]
  rfl

theorem applicable_of_not_mem (h : concrete ∉ g.signatures) : g.applicable concrete = [] := by
  unfold applicable
  rw [(Chain.layersFor_eq_nil_iff _ _).2 (applicable_methods_of_not_mem h)]
  rfl

theorem applicable_of_mem (hdistinct : g.signatures.Nodup) (hm : m ∈ g.methods) :
    g.applicable m.signature = [[m.signature]] := by
  unfold applicable
  rw [layersFor_of_mem hdistinct hm]
  rfl

theorem tie_not_mem_links_effective (hdistinct : g.signatures.Nodup) {candidates : List (Signature T)}
    {origin : Origin T} : .stop (.ambiguous candidates) origin ∉ (g.effective concrete).links := by
  by_cases hmem : concrete ∈ g.signatures
  · obtain ⟨m, hm, rfl⟩ := List.mem_map.1 hmem
    rw [effective_of_mem hdistinct hm]
    obtain ⟨signature, _ | _, body⟩ := m <;> simp [Chain.bind, Chain.links]
  · simp [effective_of_not_mem hmem, Chain.links]

end GenericFunction

end

/-! ## Calls -/

variable {A T ρ R : Type} [DecidableEq T]

/-- A leaf has nothing below it, so it does not matter what is put there. -/
theorem Chain.run_bind (call : Nat → List A → Run A T ρ R (Except (Fault (DispatchError A T)) R))
    (arguments : List A) (m : Method T (Body A T ρ R)) (next : Chain T (Body A T ρ R))
    (s : Store A T ρ R) :
    (bind m next).run call arguments s =
      (m.body arguments).run call (fun _ => ⟨next.run call arguments, next.outline⟩) s := by
  obtain ⟨signature, _ | _, body⟩ := m
  · refine congrArg (fun below => (body arguments).run call below s) (funext fun hkind => ?_)
    cases hkind
  · rfl

namespace Store

variable [Descriptor T] [Typed A T]

def exhausted (operation : String) (arguments : List A) : Below A T ρ R :=
  let origin : Origin T := ⟨operation, Signature.of arguments⟩
  { run := fun s => some (.error ⟨.exhausted, origin, arguments⟩, s)
    outline := .stop .exhausted origin }

variable [ExactDescriptor T] {s : Store A T ρ R} {f : Nat} {g : GenericFunction T (Body A T ρ R)}

theorem Reachable.tie_not_mem_links_lookup (h : s.Reachable) (hg : s.functions[f]? = some g)
    {concrete : Signature T} {candidates : List (Signature T)} {origin : Origin T} :
    .stop (.ambiguous candidates) origin ∉ (g.lookup concrete).answer.links := by
  rw [h.answer_lookup hg]
  exact GenericFunction.tie_not_mem_links_effective (h.nodup_signatures hg)

theorem Reachable.answer_lookup_of_mem (h : s.Reachable) (hg : s.functions[f]? = some g)
    {m : Method T (Body A T ρ R)} (hm : m ∈ g.methods) :
    (g.lookup m.signature).answer = .bind m (.stop .exhausted ⟨g.name, m.signature⟩) := by
  rw [h.answer_lookup hg, GenericFunction.effective_of_mem (h.nodup_signatures hg) hm]

theorem Reachable.invoke_of_mem (h : s.Reachable) (hg : s.functions[f]? = some g) {arguments : List A}
    (harity : g.arity = arguments.length) {m : Method T (Body A T ρ R)} (hm : m ∈ g.methods)
    (hexact : m.signature = Signature.of arguments) (depth : Nat) :
    s.invoke (depth + 1) f arguments =
      ((m.body arguments).run (Store.invoke depth) (fun _ => exhausted g.name arguments)
        (s.commit f (g.lookup (Signature.of arguments)))).map fun r => (r.1.mapError .raised, r.2) := by
  have hchain := h.answer_lookup_of_mem hg hm
  rw [hexact] at hchain
  rw [invoke_succ hg harity, hchain, Chain.run_bind]
  rfl

theorem Reachable.not_ambiguous_of_raises (h : s.Reachable) (hg : s.functions[f]? = some g)
    {call : Nat → List A → Run A T ρ R (Except (Fault (DispatchError A T)) R)}
    {concrete : Signature T} {arguments : List A} {t : Store A T ρ R} {error : DispatchError A T}
    (hraises : .raises error ∈ (g.lookup concrete).answer.visits call arguments t) :
    error.isAmbiguous = false := by
  obtain ⟨cause, origin, hlink, rfl⟩ := Chain.exists_stop_of_raises hraises
  cases cause with
  | ambiguous candidates => exact absurd hlink (h.tie_not_mem_links_lookup hg)
  | missing | exhausted => rfl

theorem Reachable.not_ambiguous_of_invoke (h : s.Reachable) (hg : s.functions[f]? = some g)
    {arguments : List A} (harity : g.arity = arguments.length)
    (hforwards : ∀ signature body, ⟨signature, .inner, body⟩ ∈ g.methods →
      (body arguments).Forwards [])
    {depth : Nat} {error : DispatchError A T} {t : Store A T ρ R}
    (hinvoke : s.invoke (depth + 1) f arguments = some (.error (.raised error), t)) :
    error.isAmbiguous = false := by
  rw [invoke_succ hg harity, Option.map_eq_some_iff] at hinvoke
  obtain ⟨⟨raised | result, u⟩, hrun, hanswer⟩ := hinvoke
  · obtain rfl : raised = error := Fault.raised.inj (Except.error.inj (Prod.mk.inj hanswer).1)
    apply h.not_ambiguous_of_raises hg
    apply Chain.raises_mem_visits_of_run _ hrun
    intro signature body hm
    rw [h.answer_lookup hg] at hm
    exact hforwards signature body (Chain.mem_of_mem_methods_effective hm)
  · cases hanswer

theorem Reachable.tie_not_mem_links_of_deeds (h : s.Reachable) {depth f f' : Nat}
    {arguments arguments' : List A} {chain : Chain T (Body A T ρ R)} {done rest : List (Deed A T ρ R)}
    (hdeeds : s.deeds depth f arguments = done ++ .lookup f' arguments' chain :: rest)
    {candidates : List (Signature T)} {origin : Origin T} :
    .stop (.ambiguous candidates) origin ∉ chain.links := by
  have hhold := (tell_deeds depth f arguments s).hold
  rw [hdeeds, Deed.allHold_append] at hhold
  obtain ⟨g, hg, -, rfl⟩ := hhold.2.1
  exact (h.during hdeeds).tie_not_mem_links_lookup hg

/-- A call on exact types finds the method that is declared for just these types, with exhaustion
behind it, or else no method at all. -/
theorem exact_types_never_tie (h : s.Reachable) (hg : s.functions[f]? = some g) :
    (∀ concrete : Signature T,
      (concrete ∉ g.signatures →
        (g.lookup concrete).answer = .stop .missing ⟨g.name, concrete⟩ ∧
        g.applicable concrete = []) ∧
      ∀ m ∈ g.methods, m.signature = concrete →
        (g.lookup concrete).answer = .bind m (.stop .exhausted ⟨g.name, concrete⟩) ∧
        g.applicable concrete = [[concrete]]) ∧
    (∀ depth arguments, g.arity = arguments.length →
      let concrete := Signature.of arguments
      let found := s.commit f (g.lookup concrete)
      (concrete ∉ g.signatures → s.invoke (depth + 1) f arguments =
        some (.error (.raised ⟨.missing, ⟨g.name, concrete⟩, arguments⟩), found)) ∧
      (∀ m ∈ g.methods, m.signature = concrete → s.invoke (depth + 1) f arguments =
        ((m.body arguments).run (Store.invoke depth) (fun _ => exhausted g.name arguments) found).map
          fun r => (r.1.mapError .raised, r.2)) ∧
      (∀ error, .raises error ∈ (g.lookup concrete).answer.visits (Store.invoke depth) arguments found →
        error.isAmbiguous = false) ∧
      ((∀ signature body, ⟨signature, .inner, body⟩ ∈ g.methods → (body arguments).Forwards []) →
        ∀ error t, s.invoke (depth + 1) f arguments = some (.error (.raised error), t) →
          error.isAmbiguous = false)) ∧
    ∀ depth f' arguments done f'' arguments' chain rest,
      s.deeds depth f' arguments = done ++ .lookup f'' arguments' chain :: rest →
      ∀ candidates origin, .stop (.ambiguous candidates) origin ∉ chain.links := by
  refine ⟨fun concrete => ⟨fun hnone => ?_, ?_⟩, fun depth arguments harity => ⟨fun hnone => ?_,
    fun m hm hexact => h.invoke_of_mem hg harity hm hexact depth,
    fun error => h.not_ambiguous_of_raises hg,
    fun hforwards error t => h.not_ambiguous_of_invoke hg harity hforwards⟩,
    fun depth f' arguments done f'' arguments' chain rest hdeeds candidates origin =>
      h.tie_not_mem_links_of_deeds hdeeds⟩
  · exact ⟨(h.answer_lookup hg concrete).trans (GenericFunction.effective_of_not_mem hnone),
      GenericFunction.applicable_of_not_mem hnone⟩
  · rintro m hm rfl
    exact ⟨h.answer_lookup_of_mem hg hm, GenericFunction.applicable_of_mem (h.nodup_signatures hg) hm⟩
  · exact (invoke_of_effective_eq_stop h hg harity (GenericFunction.effective_of_not_mem hnone) depth).1

theorem exact_types_never_tie_labelled :
    let inner : Method ExactType (Body ExactValue ExactType Unit String) :=
      ⟨⟨[.integer .i32, .string]⟩, .inner, ExactSession.labelled "i" .inner⟩
    let leaf : Method ExactType (Body ExactValue ExactType Unit String) :=
      ⟨⟨[.string, .integer .i32]⟩, .leaf, ExactSession.labelled "l" .leaf⟩
    let arguments : List ExactValue := [.integer .i32 1, .string "x"]
    let units : List ExactValue := [.unit, .unit]
    let s : ExactSession := (Store.serveAll 1 { scope := () }
      [.create "f" 2 {}, .register 0 inner, .register 0 leaf, .invoke 0 arguments]).2
    s.Reachable ∧ s.cached 0 = 1 ∧
    (s.invoke 1 0 arguments).map (·.1) =
      some (.error (.raised ⟨.exhausted, ⟨"f", inner.signature⟩, arguments⟩)) ∧
    (s.invoke 1 0 units).map (·.1) =
      some (.error (.raised ⟨.missing, ⟨"f", ⟨[.unit, .unit]⟩⟩, units⟩)) ∧
    ∃ g, s.functions[0]? = some g ∧ g.applicable inner.signature = [[inner.signature]] := by
  intro inner leaf arguments units s
  have h := (Reachable.start (A := ExactValue) (T := ExactType) (R := String) ()).serveAll 1
    [.create "f" 2 {}, .register 0 inner, .register 0 leaf, .invoke 0 arguments]
  obtain ⟨g, hg, harity, hname, hmethods⟩ : ∃ g, s.functions[0]? = some g ∧ g.arity = 2 ∧
      g.name = "f" ∧ g.methods = [inner, leaf] :=
    ⟨_, by with_unfolding_all rfl, by with_unfolding_all rfl, by with_unfolding_all rfl,
      by with_unfolding_all rfl⟩
  have hinner : inner ∈ g.methods := by simp [hmethods]
  have hunits : Signature.of units ∉ g.signatures := by
    unfold GenericFunction.signatures
    rw [hmethods]
    decide
  have hexact := exact_types_never_tie h hg
  refine ⟨h, by decide +kernel, ?_, ?_, g, hg, ((hexact.1 _).2 inner hinner rfl).2⟩
  · rw [(hexact.2.1 0 arguments harity).2.1 inner hinner rfl, ← hname]
    rfl
  · rw [(hexact.2.1 0 units harity).1 hunits, hname]
    rfl

end Store

/-! ## Sessions with exact types -/

namespace ExactSession

theorem reachable_of_start {name : String} {arity : Nat} {withoutCache : Bool} {s : ExactSession}
    (h : start? name arity withoutCache = some s) : s.Reachable := by
  unfold start? at h
  obtain ⟨-, h⟩ := Option.ite_none_right_eq_some.1 h
  cases h
  exact (Store.Reachable.start ()).serve 0 (.create name arity _)

variable {s : ExactSession}

theorem reachable_addMethod (h : s.Reachable) (kind : Kind) (types : List ExactType) (label : String) :
    (s.addMethod kind types label).2.Reachable :=
  h.serve 0 (.register handle _)

theorem reachable_of_call (h : s.Reachable) {arguments : List ExactValue}
    {answer : Except (Fault (DispatchError ExactValue ExactType)) String} {t : ExactSession}
    (hcall : s.call arguments = some (answer, t)) : t.Reachable := by
  have hserve := h.serve 1 (.invoke handle arguments)
  unfold call at hcall
  simpa only [Store.serve, hcall] using hserve

end ExactSession

end Multimethod
