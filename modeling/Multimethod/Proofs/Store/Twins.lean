import Multimethod.Proofs.Chain.Links
import Multimethod.Proofs.Diamond
import Multimethod.Proofs.Function
import Multimethod.Proofs.Store.Requests

/-!
# A program cannot tell whether a function caches

Two stores that differ in the configuration of one function, and in what it cached and counted, are twins.
As their caches are coherent, the same call runs the same chain in both.
-/

namespace Multimethod

variable {A T ρ R : Type}

/-! ## Who does not look -/

/-- The body does not look at what `f` cached, and neither does any body that it registers. -/
def Action.Blind (f : Nat) : {k : Kind} → Action A T ρ R k → Prop
  | _, .done _ => True
  | _, .log _ rest => rest.Blind f
  | _, .ask use => ∀ scope, (use scope).Blind f
  | _, .size _ use => ∀ n, (use n).Blind f
  | _, .cached g use => g ≠ f ∧ ∀ n, (use n).Blind f
  | _, .invoke _ _ use => ∀ answer, (use answer).Blind f
  | _, .register _ _ _ body use =>
    (∀ arguments, (body arguments).Blind f) ∧ ∀ answer, (use answer).Blind f
  | _, .next use => ∀ answer, (use answer).Blind f
  | _, .describe use => ∀ outline, (use outline).Blind f
  | _, .fail _ => True

def Method.Blind (f : Nat) (m : Method T (Body A T ρ R)) : Prop :=
  ∀ arguments, (m.body arguments).Blind f

def Request.Blind (f : Nat) : Request A T ρ R → Prop
  | .register _ m => m.Blind f
  | .inspect g => g ≠ f
  | _ => True

variable [Descriptor T]

/-! ## Twins -/

structure GenericFunction.Pair (f i : Nat) (g h : GenericFunction T (Body A T ρ R)) : Prop where
  alike : g.Alike h
  same : i ≠ f → g = h
  coherent : g.Coherent ∧ h.Coherent
  blind : ∀ m ∈ g.methods, m.Blind f

namespace GenericFunction.Pair

variable {f i : Nat} {g h : GenericFunction T (Body A T ρ R)}

theorem fresh (name : String) (arity : Nat) {one other : Config} (hsame : i ≠ f → one = other) :
    Pair f i (T := T) (A := A) (ρ := ρ) (R := R) { name, arity, config := one }
      { name, arity, config := other } where
  alike := ⟨rfl, rfl, rfl⟩
  same hi := by rw [hsame hi]
  coherent := ⟨coherent_of_cache_eq_nil rfl, coherent_of_cache_eq_nil rfl⟩
  blind := List.forall_mem_nil _

variable [DecidableEq T]

theorem register (hpair : Pair f i g h) {m : Method T (Body A T ρ R)} (hm : m.Blind f) :
    Pair f i (g.register m).function (h.register m).function where
  alike := hpair.alike.register m
  same hi := by rw [hpair.same hi]
  coherent := ⟨hpair.coherent.1.register m, hpair.coherent.2.register m⟩
  blind := forall_methods_register hpair.blind hm

theorem lookup (hpair : Pair f i g h) (concrete : Signature T) :
    Pair f i (g.lookup concrete).function (h.lookup concrete).function where
  alike := hpair.alike.lookup concrete
  same hi := by rw [hpair.same hi]
  coherent := ⟨hpair.coherent.1.lookup concrete, hpair.coherent.2.lookup concrete⟩
  blind := by
    rw [methods_lookup]
    exact hpair.blind

theorem answer_lookup (hpair : Pair f i g h) (concrete : Signature T) :
    (g.lookup concrete).answer = (h.lookup concrete).answer := by
  rw [hpair.coherent.1.answer_lookup, hpair.coherent.2.answer_lookup, hpair.alike.effective]

theorem blind_answer_lookup (hpair : Pair f i g h) (concrete : Signature T) :
    ∀ m ∈ (g.lookup concrete).answer.methods, m.Blind f := by
  intro m hm
  rw [hpair.coherent.1.answer_lookup] at hm
  exact hpair.blind m (Chain.mem_of_mem_methods_effective hm)

end GenericFunction.Pair

namespace Store

/-- The stores differ in what function `f` cached and counted, how it is configured, and in the
events. No method looks at what `f` cached. -/
structure Twin (f : Nat) (s t : Store A T ρ R) : Prop where
  scope : s.scope = t.scope
  log : s.log = t.log
  functions : ∀ i, Option.Rel (GenericFunction.Pair f i) s.functions[i]? t.functions[i]?

namespace Twin

variable {f : Nat} {s t : Store A T ρ R}

theorem start (f : Nat) (scope : ρ) : Twin f ({ scope } : Store A T ρ R) { scope } where
  scope := rfl
  log := rfl
  functions i := by simp

theorem cases (h : Twin f s t) (i : Nat) :
    (s.functions[i]? = none ∧ t.functions[i]? = none) ∨
    ∃ g g', s.functions[i]? = some g ∧ t.functions[i]? = some g' ∧ g.Pair f i g' := by
  have hrel := h.functions i
  generalize s.functions[i]? = x at hrel ⊢
  generalize t.functions[i]? = y at hrel ⊢
  cases hrel with
  | none => exact Or.inl ⟨rfl, rfl⟩
  | @some g g' hpair => exact Or.inr ⟨g, g', rfl, rfl, hpair⟩

theorem length_eq (h : Twin f s t) : s.functions.length = t.functions.length := by
  have hnone : ∀ i, s.functions.length ≤ i ↔ t.functions.length ≤ i := by
    intro i
    rw [← List.getElem?_eq_none_iff, ← List.getElem?_eq_none_iff]
    rcases h.cases i with ⟨hs, ht⟩ | ⟨g, g', hs, ht, _⟩ <;> simp [hs, ht]
  exact Nat.le_antisymm ((hnone _).2 (Nat.le_refl _)) ((hnone _).1 (Nat.le_refl _))

theorem other_eq (h : Twin f s t) {i : Nat} (hi : i ≠ f) : s.functions[i]? = t.functions[i]? := by
  rcases h.cases i with ⟨hs, ht⟩ | ⟨g, g', hs, ht, hpair⟩
  · rw [hs, ht]
  · rw [hs, ht, hpair.same hi]

theorem methods_eq (h : Twin f s t) :
    s.functions.map (fun g => (g.name, g.arity, g.methods)) =
      t.functions.map fun g => (g.name, g.arity, g.methods) := by
  apply List.ext_getElem?
  intro i
  rw [List.getElem?_map, List.getElem?_map]
  rcases h.cases i with ⟨hs, ht⟩ | ⟨g, g', hs, ht, hpair⟩
  · rw [hs, ht]
  · simp [hs, ht, hpair.alike.name, hpair.alike.arity, hpair.alike.methods]

theorem size_eq (h : Twin f s t) (i : Nat) : s.size i = t.size i := by
  unfold Store.size
  rcases h.cases i with ⟨hs, ht⟩ | ⟨g, g', hs, ht, hpair⟩
  · rw [hs, ht]
  · simp [hs, ht, GenericFunction.size, hpair.alike.methods]

theorem cached_eq (h : Twin f s t) {i : Nat} (hi : i ≠ f) : s.cached i = t.cached i := by
  rw [Store.cached, Store.cached, h.other_eq hi]

theorem find_cases {ε : Type} (h : Twin f s t) (i arity : Nat) :
    (∃ fault, s.find (ε := ε) i arity = .error fault ∧ t.find (ε := ε) i arity = .error fault) ∨
    ∃ g g', s.find (ε := ε) i arity = .ok g ∧ t.find (ε := ε) i arity = .ok g' ∧ g.Pair f i g' := by
  unfold Store.find
  rcases h.cases i with ⟨hs, ht⟩ | ⟨g, g', hs, ht, hpair⟩
  · rw [hs, ht]
    exact Or.inl ⟨_, rfl, rfl⟩
  · rw [hs, ht]
    by_cases harity : g'.arity = arity
    · simp only [hpair.alike.arity, harity, if_true]
      exact Or.inr ⟨g, g', rfl, rfl, hpair⟩
    · simp only [hpair.alike.arity, harity, if_false]
      exact Or.inl ⟨_, rfl, rfl⟩

theorem commit (h : Twin f s t) {i : Nat} {α : Type} {a b : Step T (Body A T ρ R) α}
    (hpair : a.function.Pair f i b.function) : Twin f (s.commit i a) (t.commit i b) where
  scope := h.scope
  log := h.log
  functions := by
    intro j
    simp only [Store.commit, List.getElem?_set, h.length_eq]
    by_cases hij : i = j
    · subst hij
      by_cases hi : i < t.functions.length
      · simp only [hi, if_true]
        exact .some hpair
      · simp only [hi, if_true, if_false]
        exact .none
    · simp only [hij, if_false]
      exact h.functions j

theorem add (h : Twin f s t) {g g' : GenericFunction T (Body A T ρ R)}
    (hpair : g.Pair f s.functions.length g') : Twin f (s.add g).2 (t.add g').2 where
  scope := h.scope
  log := h.log
  functions := by
    intro i
    simp only [Store.add, List.getElem?_append, ← h.length_eq]
    by_cases hi : i < s.functions.length
    · simp only [hi, if_true]
      exact h.functions i
    · simp only [hi, if_false]
      rcases hpast : i - s.functions.length with _ | n
      · obtain rfl : i = s.functions.length := by omega
        exact .some hpair
      · exact .none

variable [DecidableEq T]

theorem register (h : Twin f s t) (i : Nat) {m : Method T (Body A T ρ R)} (hm : m.Blind f) :
    (s.register i m).1 = (t.register i m).1 ∧ Twin f (s.register i m).2 (t.register i m).2 := by
  unfold Store.register
  rcases h.find_cases i m.signature.arity with ⟨fault, hs, ht⟩ | ⟨g, g', hs, ht, hpair⟩
  · rw [hs, ht]
    exact ⟨rfl, h⟩
  · rw [hs, ht]
    exact ⟨congrArg (Except.mapError Fault.raised) (hpair.alike.answer_register m),
      h.commit (hpair.register hm)⟩

end Twin

/-- Run in twins, it gives the same and leaves twins. -/
def Respects (f : Nat) {α : Type} (run : Run A T ρ R α) : Prop :=
  ∀ s t, Twin f s t → Option.Rel (fun x y => x.1 = y.1 ∧ Twin f x.2 y.2) (run s) (run t)

theorem Respects.cases {f : Nat} {α : Type} {run : Run A T ρ R α} (hrun : Respects f run)
    {s t : Store A T ρ R} (h : Twin f s t) :
    (run s = none ∧ run t = none) ∨
    ∃ answer s' t', run s = some (answer, s') ∧ run t = some (answer, t') ∧ Twin f s' t' := by
  have hrel := hrun s t h
  generalize run s = x at hrel ⊢
  generalize run t = y at hrel ⊢
  cases hrel with
  | none => exact Or.inl ⟨rfl, rfl⟩
  | @some x y hxy =>
    obtain ⟨answer, s'⟩ := x
    obtain ⟨_, t'⟩ := y
    obtain ⟨rfl, htwin⟩ := hxy
    exact Or.inr ⟨answer, s', t', rfl, rfl, htwin⟩

end Store

open Store

variable [DecidableEq T] {f : Nat}
  {call : Nat → List A → Run A T ρ R (Except (Fault (DispatchError A T)) R)}

/-! ## Side by side -/

theorem Action.respects (hcall : ∀ i arguments, Respects f (call i arguments)) {k : Kind}
    (a : Action A T ρ R k) (hblind : a.Blind f) (below : k = .inner → Below A T ρ R)
    (hbelow : ∀ hk, Respects f (below hk).run) : Respects f (a.run call below) := by
  induction a with
  | done result => exact fun s t h => .some ⟨rfl, h⟩
  | log line rest ih =>
    intro s t h
    exact ih hblind below hbelow _ _ ⟨h.scope, congrArg (·.push line) h.log, h.functions⟩
  | ask use ih =>
    intro s t h
    simp only [Action.run]
    rw [h.scope]
    exact ih _ (hblind _) below hbelow s t h
  | size i use ih =>
    intro s t h
    simp only [Action.run]
    rw [h.size_eq i]
    exact ih _ (hblind _) below hbelow s t h
  | cached i use ih =>
    intro s t h
    simp only [Action.run]
    rw [h.cached_eq hblind.1]
    exact ih _ (hblind.2 _) below hbelow s t h
  | invoke i arguments use ih =>
    intro s t h
    simp only [Action.run]
    rcases (hcall i arguments).cases h with ⟨hs, ht⟩ | ⟨answer, s', t', hs, ht, htwin⟩
    · rw [hs, ht]
      exact .none
    · rw [hs, ht]
      exact ih answer (hblind answer) below hbelow s' t' htwin
  | register i signature kind body use ihbody ih =>
    intro s t h
    -- The new method is blind as well, so the twins stay twins with it.
    obtain ⟨hanswer, htwin⟩ := h.register i (m := ⟨signature, kind, body⟩) hblind.1
    simp only [Action.run]
    rw [hanswer]
    exact ih _ (hblind.2 _) below hbelow _ _ htwin
  | next use ih =>
    intro s t h
    simp only [Action.run]
    rcases (hbelow rfl).cases h with ⟨hs, ht⟩ | ⟨answer, s', t', hs, ht, htwin⟩
    · rw [hs, ht]
      exact .none
    · rw [hs, ht]
      exact ih answer (hblind answer) below hbelow s' t' htwin
  | describe use ih => exact ih _ (hblind _) below hbelow
  | fail error => exact fun s t h => .some ⟨rfl, h⟩

theorem Chain.respects (hcall : ∀ i arguments, Respects f (call i arguments)) (arguments : List A)
    (chain : Chain T (Body A T ρ R)) (hblind : ∀ m ∈ chain.methods, m.Blind f) :
    Respects f (chain.run call arguments) := by
  induction chain with
  | leaf signature body =>
    refine (body arguments).respects hcall (hblind _ List.mem_cons_self arguments) _ ?_
    intro hk
    cases hk
  | inner signature body next ih =>
    exact (body arguments).respects hcall (hblind _ List.mem_cons_self arguments) _ fun _ =>
      ih fun m hm => hblind m (List.mem_cons_of_mem _ hm)
  | stop cause origin => exact fun s t h => .some ⟨rfl, h⟩

namespace Store

variable [Typed A T]

theorem respects_invoke (depth i : Nat) (arguments : List A) :
    Respects f (Store.invoke (ρ := ρ) (R := R) depth i arguments) := by
  induction depth generalizing i arguments with
  | zero => exact fun s t h => .none
  | succ depth ih =>
    intro s t h
    rcases h.find_cases i arguments.length with ⟨fault, hs, ht⟩ | ⟨g, g', hs, ht, hpair⟩
    · rw [Store.invoke, Store.invoke, hs, ht]
      exact .some ⟨rfl, h⟩
    · obtain ⟨hs, harity⟩ := find_eq_ok_iff.1 hs
      obtain ⟨ht, harity'⟩ := find_eq_ok_iff.1 ht
      -- The lookups may differ in how they come to the chain, and not in the chain.
      have hchain := Chain.respects ih arguments _
        (hpair.blind_answer_lookup (Signature.of arguments))
      rw [invoke_succ hs harity, invoke_succ ht harity', ← hpair.answer_lookup]
      rcases hchain.cases (h.commit (hpair.lookup (Signature.of arguments))) with
        ⟨hs', ht'⟩ | ⟨answer, s', t', hs', ht', htwin⟩
      · rw [hs', ht']
        exact .none
      · rw [hs', ht']
        exact .some ⟨rfl, htwin⟩

theorem Twin.serve {s t : Store A T ρ R} (h : Twin f s t) (depth : Nat)
    {request : Request A T ρ R} (hblind : request.Blind f) :
    (s.serve depth request).1 = (t.serve depth request).1 ∧
      Twin f (s.serve depth request).2 (t.serve depth request).2 := by
  cases request with
  | surround scope => exact ⟨rfl, rfl, h.log, h.functions⟩
  | create name arity config =>
    exact ⟨congrArg Response.created h.length_eq, h.add (.fresh name arity fun _ => rfl)⟩
  | register i m =>
    obtain ⟨hanswer, htwin⟩ := h.register i (m := m) hblind
    exact ⟨congrArg Response.registered hanswer, htwin⟩
  | invoke i arguments =>
    simp only [Store.serve]
    rcases (respects_invoke depth i arguments).cases h with
      ⟨hs, ht⟩ | ⟨answer, s', t', hs, ht, htwin⟩
    · rw [hs, ht]
      exact ⟨rfl, h⟩
    · rw [hs, ht]
      exact ⟨rfl, htwin⟩
  | applicable i types =>
    refine ⟨?_, h⟩
    simp only [Store.serve]
    rcases h.find_cases (ε := Empty) i types.length with
      ⟨fault, hs, ht⟩ | ⟨g, g', hs, ht, hpair⟩
    · rw [hs, ht]
    · simp only [hs, ht, Except.map, hpair.alike.applicable]
  | inspect i => exact ⟨congrArg Response.inspected (h.other_eq hblind), h⟩

theorem Twin.serveAll {s t : Store A T ρ R} (h : Twin f s t) (depth : Nat)
    {requests : List (Request A T ρ R)} (hblind : ∀ request ∈ requests, request.Blind f) :
    (s.serveAll depth requests).1 = (t.serveAll depth requests).1 ∧
      Twin f (s.serveAll depth requests).2 (t.serveAll depth requests).2 := by
  induction requests generalizing s t with
  | nil => exact ⟨rfl, h⟩
  | cons request rest ih =>
    obtain ⟨hresponse, hnext⟩ := h.serve depth (hblind request List.mem_cons_self)
    obtain ⟨hresponses, hlast⟩ := ih hnext fun r hr => hblind r (List.mem_cons_of_mem _ hr)
    refine ⟨?_, hlast⟩
    simp only [Store.serveAll, hresponse, hnext.log, hresponses]

/-- A program that does not look at what one of its functions caches and counts gets the same
answers and leaves the same log, however that function is configured. -/
theorem serveAll_of_configuration (depth : Nat) (scope : ρ) (name : String) (arity : Nat)
    (one other : Config) (before after : List (Request A T ρ R))
    (hblind : ∀ request ∈ before ++ after, request.Blind
      (Store.serveAll depth { scope } before).2.functions.length) :
    let f := (Store.serveAll depth { scope } before).2.functions.length
    let first := Store.serveAll depth { scope } (before ++ .create name arity one :: after)
    let second := Store.serveAll depth { scope } (before ++ .create name arity other :: after)
    first.1 = second.1 ∧
    first.2.functions.map (fun g => (g.name, g.arity, g.methods)) =
      second.2.functions.map (fun g => (g.name, g.arity, g.methods)) ∧
    ∀ i, i ≠ f → first.2.functions[i]? = second.2.functions[i]? := by
  intro f first second
  have hbefore := ((Twin.start f scope).serveAll depth fun r hr =>
    hblind r (List.mem_append_left _ hr)).2
  have hmade : Twin f ((Store.serveAll depth { scope } before).2.serve depth (.create name arity one)).2
      ((Store.serveAll depth { scope } before).2.serve depth (.create name arity other)).2 :=
    hbefore.add (.fresh name arity fun hne => absurd rfl hne)
  obtain ⟨hresponses, hlast⟩ := hmade.serveAll depth fun r hr =>
    hblind r (List.mem_append_right _ hr)
  rw [show first = _ from serveAll_append depth _ before _,
    show second = _ from serveAll_append depth _ before _]
  exact ⟨congrArg (fun rest => _ ++ _ :: rest) hresponses, hlast.methods_eq, fun i => hlast.other_eq⟩

theorem blind_learner (f g : Nat) : (Diamond.learner g).Blind f :=
  fun _ => ⟨fun _ => trivial, fun _ answer => by cases answer <;> trivial⟩

theorem serveAll_of_configuration_learner :
    let before := [.create "e" 1 {}]
    let after := [.register 1 (Diamond.learner 1), .invoke 1 [Diamond.bottom],
      .invoke 1 [Diamond.bottom], .applicable 1 [.bottom]]
    let first := Store.serveAll 2 { scope := () } (before ++ .create "f" 1 {} :: after)
    let second := Store.serveAll 2 { scope := () }
      (before ++ .create "f" 1 (Config.withoutCache {}) :: after)
    first.2.functions.map (·.cachedSignatures) = [0, 1] ∧
    second.2.functions.map (·.cachedSignatures) = [0, 0] ∧ first.1 = second.1 := by
  intro before after first second
  have hblind : ∀ request ∈ before ++ after, request.Blind 1 := by
    intro request hrequest
    simp only [before, after, List.cons_append, List.nil_append, List.mem_cons,
      List.not_mem_nil, or_false] at hrequest
    rcases hrequest with rfl | rfl | rfl | rfl | rfl
    · trivial
    · exact blind_learner 1 1
    · trivial
    · trivial
    · trivial
  exact ⟨by decide +kernel, by decide +kernel,
    (serveAll_of_configuration 2 () "f" 1 {} (Config.withoutCache {}) before after hblind).1⟩

end Store

end Multimethod
