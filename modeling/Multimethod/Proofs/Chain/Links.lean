import Multimethod.Proofs.Chain.Effective
import Multimethod.Proofs.Diamond
import Multimethod.Store

/-!
# The links of a chain

An inner method goes on to the chain that the methods strictly beneath it would have alone.
-/

namespace Multimethod.Chain

variable {T : Type} {β : Kind → Type}

/-! ## What a chain holds -/

def links : Chain T β → List (Chain T β)
  | leaf signature body => [leaf signature body]
  | inner signature body next => inner signature body next :: next.links
  | stop cause origin => [stop cause origin]

def methods : Chain T β → List (Method T β)
  | leaf signature body => [⟨signature, .leaf, body⟩]
  | inner signature body next => ⟨signature, .inner, body⟩ :: next.methods
  | stop _ _ => []

/-- The chain of a call that has already run a method: what was missing is exhausted. -/
def continued : Chain T β → Chain T β
  | stop .missing origin => .stop .exhausted origin
  | chain => chain

theorem stop_mem_links_inner {signature : Signature T} {body : β .inner} {next : Chain T β}
    {cause : Cause T} {origin : Origin T} :
    .stop cause origin ∈ (inner signature body next).links ↔ .stop cause origin ∈ next.links := by
  simp [links]

theorem continued_ofLayers (origin : Origin T) (layers : List (List (Method T β))) :
    (ofLayers origin layers).continued = ofLayers origin layers := by
  match layers with
  | [] | [] :: _ | (_ :: _ :: _) :: _ => rfl
  | [⟨_, .leaf, _⟩] :: _ | [⟨_, .inner, _⟩] :: _ => rfl

theorem mem_of_mem_methods_ofLayers {origin : Origin T} {m : Method T β}
    {layers : List (List (Method T β))} (h : m ∈ (ofLayers origin layers).methods) :
    ∃ layer ∈ layers, m ∈ layer := by
  induction layers with
  | nil => cases h
  | cons layer rest ih =>
    match layer with
    | [] | _ :: _ :: _ => cases h
    | [⟨signature, .leaf, body⟩] => exact ⟨_, List.mem_cons_self, h⟩
    | [⟨signature, .inner, body⟩] =>
      rcases List.mem_cons.1 h with rfl | h
      · exact ⟨_, List.mem_cons_self, List.mem_cons_self⟩
      · obtain ⟨layer, hlayer, hm⟩ := ih h
        exact ⟨layer, List.mem_cons_of_mem _ hlayer, hm⟩

theorem mem_of_mem_methods_ofMethods [Descriptor T] {origin : Origin T} {m : Method T β}
    {methods : List (Method T β)} (h : m ∈ (ofMethods origin methods).methods) : m ∈ methods := by
  obtain ⟨layer, hlayer, hm⟩ := mem_of_mem_methods_ofLayers h
  exact Specificity.mem_of_mem_layers hlayer hm

theorem mem_of_mem_methods_effective [Descriptor T] {operation : String} {methods : List (Method T β)}
    {concrete : Signature T} {m : Method T β} (h : m ∈ (effective operation methods concrete).methods) :
    m ∈ methods := by
  by_cases hnone : applicable methods concrete = []
  · rw [effective_of_no_applicable hnone] at h
    cases h
  · rw [effective_eq_ofMethods hnone] at h
    exact (List.mem_filter.1 (mem_of_mem_methods_ofMethods h)).1

variable [Descriptor T]

/-- The signature is tied at the end of the chain, or a leaf or a tie there strictly implies it. -/
def Hides (signature : Signature T) : Chain T β → Prop
  | leaf last _ => last.strictlyImplies signature = true
  | inner _ _ next => next.Hides signature
  | stop (.ambiguous candidates) _ =>
    ∃ tied ∈ candidates, tied = signature ∨ tied.strictlyImplies signature = true
  | stop _ _ => False

theorem continued_effective (operation : String) (methods : List (Method T β))
    (concrete : Signature T) :
    (effective operation methods concrete).continued =
      ofMethods ⟨operation, concrete⟩ (applicable methods concrete) := by
  by_cases h : applicable methods concrete = []
  · rw [effective_of_no_applicable h, h, ofMethods_nil]
    rfl
  · rw [effective_eq_ofMethods h, ofMethods, continued_ofLayers]

/-- The methods of a function that apply and that `m` strictly implies. -/
def lessSpecific (m : Method T β) (methods : List (Method T β)) (concrete : Signature T) :
    List (Method T β) :=
  methods.filter fun other =>
    other.signature.accepts concrete && m.signature.strictlyImplies other.signature

theorem applicable_lessSpecific (m : Method T β) (methods : List (Method T β)) (concrete : Signature T) :
    applicable (lessSpecific m methods concrete) concrete = beneath m (applicable methods concrete) := by
  simp only [applicable, lessSpecific, beneath, List.filter_filter]
  apply List.filter_congr
  intro other _
  cases other.signature.accepts concrete <;> simp

/-! ## Down the chain -/

variable [LawfulDescriptor T]

theorem beneath_beneath {a b : Method T β} {methods : List (Method T β)}
    (hb : b ∈ beneath a methods) : beneath b (beneath a methods) = beneath b methods := by
  have hab := (List.mem_filter.1 hb).2
  simp only [beneath, List.filter_filter]
  apply List.filter_congr
  intro c _
  by_cases hbc : b.signature.strictlyImplies c.signature = true
  · have hac : a.signature.strictlyImplies c.signature = true :=
      Specificity.strictly_trans Method.implies_transitive hab hbc
    simp [hbc, hac]
  · simp [hbc]

theorem pairwise_methods_ofMethods (origin : Origin T) (methods : List (Method T β)) :
    (ofMethods origin methods).methods.Pairwise
      fun a b => a.signature.strictlyImplies b.signature = true := by
  induction methods using descend with
  | nil => simp [ofMethods_nil, Chain.methods]
  | single methods first hbest ih =>
    rw [ofMethods_of_single origin hbest]
    obtain ⟨signature, _ | _, body⟩ := first
    · exact List.pairwise_singleton _ _
    · refine List.pairwise_cons.2 ⟨fun m hm => ?_, ih⟩
      exact (List.mem_filter.1 (mem_of_mem_methods_ofMethods hm)).2
  | tie methods htie => simp [ofMethods_of_tie origin htie, Chain.methods]

theorem mem_methods_or_hides_ofMethods (origin : Origin T) {m : Method T β}
    (methods : List (Method T β)) (hm : m ∈ methods) :
    m ∈ (ofMethods origin methods).methods ∨ (ofMethods origin methods).Hides m.signature := by
  induction methods using descend with
  | nil => cases hm
  | single methods first hbest ih =>
    rw [ofMethods_of_single origin hbest]
    have hfirst := Specificity.eq_or_strictly_of_single Method.implies_transitive hbest hm
    obtain ⟨signature, _ | _, body⟩ := first
    · rcases hfirst with rfl | hbelow
      · exact Or.inl List.mem_cons_self
      · exact Or.inr hbelow
    · rcases hfirst with rfl | hbelow
      · exact Or.inl List.mem_cons_self
      · exact (ih (List.mem_filter.2 ⟨hm, hbelow⟩)).imp_left (List.mem_cons_of_mem _)
  | tie methods htie =>
    rw [ofMethods_of_tie origin htie]
    obtain ⟨top, htop, hbest, habove⟩ := Specificity.exists_topmost Method.implies_transitive hm
    refine Or.inr ⟨top.signature, List.mem_map_of_mem (List.mem_filter.2 ⟨htop, hbest⟩), ?_⟩
    exact habove.imp_left (congrArg Method.signature)

theorem next_of_mem_links {origin : Origin T} {signature : Signature T} {body : β .inner}
    {next : Chain T β} (methods : List (Method T β))
    (h : .inner signature body next ∈ (ofMethods origin methods).links) :
    ⟨signature, .inner, body⟩ ∈ methods ∧
      next = ofMethods origin (beneath ⟨signature, .inner, body⟩ methods) := by
  induction methods using descend with
  | nil => simp [ofMethods_nil, links] at h
  | single methods first hbest ih =>
    rw [ofMethods_of_single origin hbest] at h
    obtain ⟨_, _ | _, _⟩ := first
    · simp [bind, links] at h
    · rcases List.mem_cons.1 h with heq | h
      · injection heq with hsignature hbody hnext
        subst hsignature hbody
        exact ⟨Specificity.mem_of_single hbest, hnext⟩
      · obtain ⟨hmem, hnext⟩ := ih h
        refine ⟨(List.mem_filter.1 hmem).1, ?_⟩
        -- What is beneath a method further down is beneath the first one as well.
        rw [hnext, beneath_beneath hmem]
  | tie methods htie => simp [ofMethods_of_tie origin htie, links] at h

theorem next_of_mem_links_effective {operation : String} {methods : List (Method T β)}
    {concrete : Signature T} {signature : Signature T} {body : β .inner} {next : Chain T β}
    (h : .inner signature body next ∈ (effective operation methods concrete).links) :
    ⟨signature, .inner, body⟩ ∈ applicable methods concrete ∧
      next = (effective operation (lessSpecific ⟨signature, .inner, body⟩ methods concrete)
        concrete).continued := by
  by_cases hnone : applicable methods concrete = []
  · rw [effective_of_no_applicable hnone] at h
    simp [links] at h
  · rw [effective_eq_ofMethods hnone] at h
    obtain ⟨hmem, hnext⟩ := next_of_mem_links _ h
    refine ⟨hmem, ?_⟩
    rw [hnext, continued_effective, applicable_lessSpecific]

theorem pairwise_methods_effective (operation : String) (methods : List (Method T β))
    (concrete : Signature T) : (effective operation methods concrete).methods.Pairwise
      fun a b => a.signature.strictlyImplies b.signature = true := by
  by_cases hnone : applicable methods concrete = []
  · rw [effective_of_no_applicable hnone]
    exact List.Pairwise.nil
  · rw [effective_eq_ofMethods hnone]
    exact pairwise_methods_ofMethods _ _

/-- Each inner method goes on to the chain of the methods that apply and are less specific. A chain
falls strictly, and what it leaves out is hidden behind a leaf or a tie. -/
theorem next_runs_chain_of_lessSpecific {A ρ R : Type} [DecidableEq T] (operation : String)
    (methods : List (Method T (Body A T ρ R))) (concrete : Signature T) :
    (∀ signature body next, .inner signature body next ∈ (effective operation methods concrete).links →
      ⟨signature, .inner, body⟩ ∈ applicable methods concrete ∧
      next = (effective operation (lessSpecific ⟨signature, .inner, body⟩ methods concrete)
        concrete).continued ∧
      (∀ call arguments s, (inner signature body next).run call arguments s =
        (body arguments).run call (fun _ => ⟨next.run call arguments, next.outline⟩) s) ∧
      ∀ other ∈ applicable methods concrete, signature.strictlyImplies other.signature = true →
        other ∈ next.methods ∨ next.Hides other.signature) ∧
    (effective operation methods concrete).methods.Pairwise
      (fun a b => a.signature.strictlyImplies b.signature = true) ∧
    ((effective operation methods concrete).methods.map (·.signature)).Nodup := by
  have hfall := pairwise_methods_effective operation methods concrete
  refine ⟨fun signature body next hlink => ?_, hfall, ?_⟩
  · obtain ⟨hmem, hnext⟩ := next_of_mem_links_effective hlink
    refine ⟨hmem, hnext, fun _ _ _ => rfl, fun other hother hbelow => ?_⟩
    rw [hnext, continued_effective, applicable_lessSpecific]
    exact mem_methods_or_hides_ofMethods _ _ (List.mem_filter.2 ⟨hother, hbelow⟩)
  · refine List.pairwise_map.2 (hfall.imp ?_)
    intro a b hab hsame
    rw [hsame] at hab
    exact Specificity.strictly_irrefl b.signature hab

theorem next_runs_chain_of_lessSpecific_diamond :
    let methods := [Diamond.leaf "t" .top, Diamond.inner "b" .bottom, Diamond.inner "l" .left]
    let chain := effective "f" methods ⟨[.bottom]⟩
    chain.methods.map (·.signature) = [⟨[.bottom]⟩, ⟨[.left]⟩, ⟨[.top]⟩] ∧
    (∃ next, .inner ⟨[.bottom]⟩ (Diamond.inner "b" .bottom).body next ∈ chain.links ∧
      next = (effective "f" (lessSpecific (Diamond.inner "b" .bottom) methods ⟨[.bottom]⟩)
        ⟨[.bottom]⟩).continued ∧
      ∀ call s, chain.run call [.bottom] s =
        (next.run call [.bottom] s).map fun r => (r.1.map ("b" ++ ·), r.2)) ∧
    ∀ call s, chain.run call [.bottom] s = some (.ok "blt", s) := by
  intro methods chain
  let b := Diamond.inner "b" .bottom
  let l := Diamond.inner "l" .left
  have hfirst : mostSpecific (applicable methods ⟨[.bottom]⟩) = [b] := rfl
  have hsecond : mostSpecific (beneath b (applicable methods ⟨[.bottom]⟩)) = [l] := rfl
  have hthird : mostSpecific (beneath l (beneath b (applicable methods ⟨[.bottom]⟩))) =
    [Diamond.leaf "t" .top] := rfl
  obtain ⟨last, hchain⟩ : ∃ last, chain = bind b (bind l (bind (Diamond.leaf "t" .top) last)) :=
    ⟨_, (effective_of_single hfirst).trans
      (by rw [ofMethods_of_single _ hsecond, ofMethods_of_single _ hthird])⟩
  have hlink : bind b (bind l (bind (Diamond.leaf "t" .top) last)) ∈ chain.links := by
    rw [hchain]
    exact List.mem_cons_self
  obtain ⟨-, hnext, hrun, -⟩ :=
    (next_runs_chain_of_lessSpecific "f" methods ⟨[.bottom]⟩).1 _ _ _ hlink
  refine ⟨by decide +kernel, ⟨_, hlink, hnext, fun call s => ?_⟩, fun call s => ?_⟩
  · rw [hchain]
    exact hrun call [.bottom] s
  · rw [hchain]
    rfl

end Multimethod.Chain
