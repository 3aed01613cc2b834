import Multimethod.Proofs.Store.Coherence
import Multimethod.Proofs.Store.Visits

/-! # Failures far down a chain -/

namespace Multimethod

variable {A T ρ R : Type}

/-! ## Bodies that pass errors on -/

/-- The body goes on to the next link in the end, and fails with the error of that link if it fails. -/
def Action.Relays : {k : Kind} → Action A T ρ R k → Prop
  | _, .done _ => False
  | _, .log _ rest => rest.Relays
  | _, .ask use => ∀ scope, (use scope).Relays
  | _, .size _ use => ∀ n, (use n).Relays
  | _, .cached _ use => ∀ n, (use n).Relays
  | _, .invoke _ _ use => ∀ answer, (use answer).Relays
  | _, .register _ _ _ _ use => ∀ answer, (use answer).Relays
  | _, .next use => ∀ error, use (.error error) = .fail error
  | _, .describe use => ∀ outline, (use outline).Relays
  | _, .fail _ => False

variable [DecidableEq T]

/-- What a body does before it goes on: the store in which it gets there, if it does. -/
def Action.prelude (call : Nat → List A → Run A T ρ R (Except (Fault (DispatchError A T)) R)) :
    {k : Kind} → Action A T ρ R k → (k = .inner → Outline T) → Store A T ρ R →
      Option (Store A T ρ R)
  | _, .done _, _, _ => none
  | _, .log line rest, outline, s => rest.prelude call outline { s with log := s.log.push line }
  | _, .ask use, outline, s => (use s.scope).prelude call outline s
  | _, .size f use, outline, s => (use (s.size f)).prelude call outline s
  | _, .cached f use, outline, s => (use (s.cached f)).prelude call outline s
  | _, .invoke f arguments use, outline, s =>
    match call f arguments s with
    | none => none
    | some (answer, s) => (use answer).prelude call outline s
  | _, .register f signature kind body use, outline, s =>
    let (answer, s) := s.register f ⟨signature, kind, body⟩
    (use answer).prelude call outline s
  | _, .next _, _, s => some s
  | _, .describe use, outline, s => (use (outline rfl)).prelude call outline s
  | _, .fail _, _, _ => none

def Chain.preludes (call : Nat → List A → Run A T ρ R (Except (Fault (DispatchError A T)) R))
    (arguments : List A) : Chain T (Body A T ρ R) → Store A T ρ R → Option (Store A T ρ R)
  | .inner _ body next, s =>
    ((body arguments).prelude call (fun _ => next.outline) s).bind (next.preludes call arguments)
  | .leaf _ _, s => some s
  | .stop _ _, s => some s

section

variable {call : Nat → List A → Run A T ρ R (Except (Fault (DispatchError A T)) R)}
  {error : DispatchError A T}

theorem Action.goesOnOnce_of_relays {k : Kind} {a : Action A T ρ R k} (ha : a.Relays)
    {below : k = .inner → Below A T ρ R} {after : Store A T ρ R → Option (Store A T ρ R)}
    (hbelow : ∀ hk u, (below hk).run u = (after u).map fun t => (.error error, t))
    (s : Store A T ρ R) :
    (a.run call below s =
        ((a.prelude call (fun hk => (below hk).outline) s).bind after).map fun t => (.error error, t)) ∧
      a.onward call below s = (a.prelude call (fun hk => (below hk).outline) s).toList := by
  induction a generalizing s with
  | done result => exact ha.elim
  | log line rest ih => exact ih ha hbelow _
  | ask use ih => exact ih _ (ha _) hbelow _
  | size f use ih => exact ih _ (ha _) hbelow _
  | cached f use ih => exact ih _ (ha _) hbelow _
  | invoke f arguments use ih =>
    simp only [Action.run, Action.onward, Action.prelude]
    cases call f arguments s with
    | none => exact ⟨rfl, rfl⟩
    | some r => exact ih r.1 (ha r.1) hbelow r.2
  | register f signature kind body use ihbody ih => exact ih _ (ha _) hbelow _
  | next use ih =>
    rw [Action.run, Action.onward, Action.prelude, hbelow rfl s, Option.bind_some]
    cases after s with
    | none => exact ⟨rfl, rfl⟩
    | some t => simp [ha error, Action.run, Action.onward]
  | describe use ih => exact ih _ (ha _) hbelow _
  | fail error => exact ha.elim

/-! ## Chains of such bodies -/

variable {arguments : List A} {cause : Cause T} {origin : Origin T} {chain : Chain T (Body A T ρ R)}

namespace Chain

theorem run_of_relays (hstop : .stop cause origin ∈ chain.links)
    (hrelays : ∀ m ∈ chain.methods, (m.body arguments).Relays) (s : Store A T ρ R) :
    chain.run call arguments s =
      (chain.preludes call arguments s).map fun t => (.error ⟨cause, origin, arguments⟩, t) := by
  induction chain generalizing s with
  | leaf signature body => simp [links] at hstop
  | inner signature body next ih =>
    obtain ⟨hbody, hnext⟩ := List.forall_mem_cons.1 hrelays
    have hrun := ih (stop_mem_links_inner.1 hstop) hnext
    exact (Action.goesOnOnce_of_relays hbody (fun _ => hrun) s).1
  | stop cause' origin' =>
    obtain ⟨rfl, rfl⟩ := Chain.stop.inj (List.mem_singleton.1 hstop)
    rfl

theorem visits_of_relays (hstop : .stop cause origin ∈ chain.links)
    (hrelays : ∀ m ∈ chain.methods, (m.body arguments).Relays) {s t : Store A T ρ R}
    (h : chain.preludes call arguments s = some t) :
    chain.visits call arguments s =
      chain.methods.map .begins ++ [.raises ⟨cause, origin, arguments⟩] := by
  induction chain generalizing s with
  | leaf signature body => simp [links] at hstop
  | inner signature body next ih =>
    obtain ⟨hbody, hnext⟩ := List.forall_mem_cons.1 hrelays
    have hbelow := stop_mem_links_inner.1 hstop
    obtain ⟨u, hprelude, hpreludes⟩ := Option.bind_eq_some_iff.1 h
    have honward : (body arguments).onward call
        (fun _ => ⟨next.run call arguments, next.outline⟩) s = [u] := by
      rw [(Action.goesOnOnce_of_relays hbody (fun _ => run_of_relays hbelow hnext) s).2, hprelude,
        Option.toList_some]
    rw [visits, honward, List.flatMap_singleton, ih hbelow hnext hpreludes]
    rfl
  | stop cause' origin' =>
    obtain ⟨rfl, rfl⟩ := Chain.stop.inj (List.mem_singleton.1 hstop)
    rfl

end Chain

end

namespace Store

variable [Descriptor T] [Typed A T]

/-- A call whose inner methods all pass errors on fails with the error of the last link. What the
bodies did stays done, each once and the most specific first. -/
theorem failure_passes_on {s : Store A T ρ R} (h : s.Reachable) {f : Nat}
    {g : GenericFunction T (Body A T ρ R)} (hg : s.functions[f]? = some g) {arguments : List A}
    (harity : g.arity = arguments.length) (depth : Nat) {cause : Cause T} {origin : Origin T}
    (hstop : .stop cause origin ∈ (g.effective (Signature.of arguments)).links)
    (hrelays : ∀ m ∈ (g.effective (Signature.of arguments)).methods, (m.body arguments).Relays) :
    let chain := g.effective (Signature.of arguments)
    let found := s.commit f (g.lookup (Signature.of arguments))
    let final := chain.preludes (Store.invoke depth) arguments found
    let error : DispatchError A T := ⟨cause, origin, arguments⟩
    s.invoke (depth + 1) f arguments = final.map (fun t => (.error (.raised error), t)) ∧
    ∀ t, final = some t → chain.visits (Store.invoke depth) arguments found =
      chain.methods.map .begins ++ [.raises error] := by
  intro chain found final error
  refine ⟨?_, fun t => Chain.visits_of_relays hstop hrelays⟩
  rw [invoke_succ hg harity, h.answer_lookup hg, Chain.run_of_relays hstop hrelays, Option.map_map]
  rfl

theorem failure_passes_on_diamond :
    let adds : Method Diamond (Body Diamond Diamond Unit String) :=
      ⟨⟨[.bottom]⟩, .inner, fun _ => .log "b"
        (.register 0 ⟨[.top]⟩ .leaf (fun _ => .done "t") fun _ => .pass)⟩
    let calls : Method Diamond (Body Diamond Diamond Unit String) :=
      ⟨⟨[.left]⟩, .inner, fun _ => .invoke 1 [Diamond.top] fun _ => .log "l" .pass⟩
    let s := (Store.serveAll 1 { scope := () }
      [.create "f" 1 {}, .create "g" 1 {}, .register 0 calls, .register 0 adds]).2
    s.Reachable ∧
    (s.invoke 2 0 [Diamond.bottom]).map (fun r => (r.1, r.2.log, r.2.size 0, r.2.cached 0)) =
      some (.error (.raised ⟨.exhausted, ⟨"f", ⟨[.bottom]⟩⟩, [.bottom]⟩), #["b", "l"], 3, 0) := by
  intro adds calls s
  have h := (Reachable.start (A := Diamond) (T := Diamond) (R := String) ()).serveAll 1
    [.create "f" 1 {}, .create "g" 1 {}, .register 0 calls, .register 0 adds]
  obtain ⟨g, hg, harity, hchain⟩ : ∃ g, s.functions[0]? = some g ∧ g.arity = [Diamond.bottom].length ∧
      g.effective (.of [Diamond.bottom]) = .inner adds.signature adds.body
        (.inner calls.signature calls.body (.stop .exhausted ⟨"f", ⟨[.bottom]⟩⟩)) := by
    have hadds : Chain.mostSpecific (Chain.applicable [calls, adds] ⟨[.bottom]⟩) = [adds] := rfl
    have hcalls : Chain.mostSpecific
      (Chain.beneath adds (Chain.applicable [calls, adds] ⟨[.bottom]⟩)) = [calls] := rfl
    have hnone : Chain.beneath calls
      (Chain.beneath adds (Chain.applicable [calls, adds] ⟨[.bottom]⟩)) = [] := rfl
    refine ⟨_, rfl, rfl, (Chain.effective_of_single hadds).trans ?_⟩
    rw [Chain.ofMethods_of_single _ hcalls, hnone, Chain.ofMethods_nil]
    rfl
  have hstop : .stop .exhausted ⟨"f", ⟨[.bottom]⟩⟩ ∈ (g.effective (.of [Diamond.bottom])).links := by
    simp [hchain, Chain.links]
  have hrelays : ∀ m ∈ (g.effective (.of [Diamond.bottom])).methods, (m.body [.bottom]).Relays := by
    rw [hchain]
    exact List.forall_mem_cons.2 ⟨fun _ _ => rfl, List.forall_mem_singleton.2 fun _ _ => rfl⟩
  refine ⟨h, ?_⟩
  rw [(failure_passes_on h hg harity 1 hstop hrelays).1]
  obtain rfl := Option.some.inj hg
  decide +kernel

end Store

end Multimethod
