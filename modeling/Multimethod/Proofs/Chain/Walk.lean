import Multimethod.Function
import Multimethod.Proofs.Chain.Effective
import Multimethod.Proofs.Diamond
import Multimethod.Proofs.Specificity.Rounds

/-!
# Chains and layers side by side

A chain can also be built from its end. Nothing is asked of the descriptor.
-/

namespace Multimethod

variable {T : Type} {β : Kind → Type}

namespace Chain

/-! ## From the end -/

def place (origin : Origin T) (layer : List (Method T β)) (seed : Chain T β) : Chain T β :=
  match layer with
  | [m] => bind m seed
  | tied => .stop (.ambiguous (tied.map (·.signature))) origin

theorem place_of_tie {origin : Origin T} {tied : List (Method T β)} (h : 2 ≤ tied.length)
    (seed : Chain T β) :
    place origin tied seed = .stop (.ambiguous (tied.map (·.signature))) origin := by
  match tied with
  | [] | [_] => simp at h
  | _ :: _ :: _ => rfl

theorem ofLayers_eq_foldr (origin : Origin T) (layers : List (List (Method T β))) :
    ofLayers origin layers = layers.foldr (place origin) (.stop .exhausted origin) := by
  induction layers with
  | nil => rfl
  | cons layer rest ih =>
    match layer with
    | [] | _ :: _ :: _ => rfl
    | [m] => exact congrArg (bind m) ih

/-! ## From the front -/

/-- What a walk over the layers finds behind the leading inner methods, and the end of the chain there. -/
inductive Ends (origin : Origin T) : List (List (Method T β)) → Chain T β → Prop where
  | exhausted : Ends origin [] (.stop .exhausted origin)
  | leaf (signature : Signature T) (body : β .leaf) (behind : List (List (Method T β))) :
    Ends origin ([⟨signature, .leaf, body⟩] :: behind) (.leaf signature body)
  | tie {tied : List (Method T β)} (h : 2 ≤ tied.length) (behind : List (List (Method T β))) :
    Ends origin (tied :: behind) (.stop (.ambiguous (tied.map (·.signature))) origin)

theorem exists_lead (origin : Origin T) {layers : List (List (Method T β))}
    (hne : ∀ layer ∈ layers, layer ≠ []) :
    ∃ (lead : List (Signature T × β .inner)) (rest : List (List (Method T β))) (last : Chain T β),
      layers = lead.map (fun m => [⟨m.1, .inner, m.2⟩]) ++ rest ∧ Ends origin rest last := by
  induction layers with
  | nil => exact ⟨[], [], _, rfl, .exhausted⟩
  | cons layer behind ih =>
    match layer, hne layer List.mem_cons_self with
    | [⟨signature, .inner, body⟩], _ =>
      obtain ⟨lead, rest, last, hlayers, hends⟩ := ih fun layer hl => hne layer (by simp [hl])
      exact ⟨(signature, body) :: lead, rest, last, by rw [hlayers]; rfl, hends⟩
    | [⟨signature, .leaf, body⟩], _ => exact ⟨[], _, _, rfl, .leaf signature body behind⟩
    | _ :: _ :: _, _ => exact ⟨[], _, _, rfl, .tie (by simp) behind⟩

/-- Whatever was built behind it, the end throws it away. -/
theorem Ends.foldr_place {origin : Origin T} {rest : List (List (Method T β))} {last : Chain T β}
    (h : Ends origin rest last) :
    rest.foldr (place origin) (.stop .exhausted origin) = last := by
  cases h with
  | exhausted | leaf => rfl
  | tie h behind => exact place_of_tie h _

theorem foldr_place_lead (origin : Origin T) (lead : List (Signature T × β .inner))
    (rest : List (List (Method T β))) (seed : Chain T β) :
    (lead.map (fun m => [(⟨m.1, .inner, m.2⟩ : Method T β)]) ++ rest).foldr (place origin) seed =
      lead.foldr (fun m next => .inner m.1 m.2 next) (rest.foldr (place origin) seed) := by
  rw [List.foldr_append, List.foldr_map]
  rfl

theorem exists_walk_ofLayers (origin : Origin T) {layers : List (List (Method T β))}
    (hne : ∀ layer ∈ layers, layer ≠ []) :
    ∃ (lead : List (Signature T × β .inner)) (rest : List (List (Method T β))) (last : Chain T β),
      layers = lead.map (fun m => [⟨m.1, .inner, m.2⟩]) ++ rest ∧ Ends origin rest last ∧
      ofLayers origin layers = lead.foldr (fun m next => .inner m.1 m.2 next) last := by
  obtain ⟨lead, rest, last, hlayers, hends⟩ := exists_lead origin hne
  refine ⟨lead, rest, last, hlayers, hends, ?_⟩
  rw [ofLayers_eq_foldr, hlayers, foldr_place_lead, hends.foldr_place]

theorem ofLayers_ne_missing (origin other : Origin T) (layers : List (List (Method T β))) :
    ofLayers origin layers ≠ .stop .missing other := by
  match layers with
  | [] | [] :: _ | (_ :: _ :: _) :: _ => nofun
  | [⟨_, .leaf, _⟩] :: _ | [⟨_, .inner, _⟩] :: _ => nofun

end Chain

namespace GenericFunction

variable [Descriptor T]

theorem mem_methods_of_mem_layersFor {f : GenericFunction T β} {concrete : Signature T}
    {layer : List (Method T β)} {m : Method T β}
    (hlayer : layer ∈ Chain.layersFor f.methods concrete) (hm : m ∈ layer) : m ∈ f.methods :=
  (List.mem_filter.1 (Specificity.mem_of_mem_layers hlayer hm)).1

theorem applicable_eq_nil_iff (f : GenericFunction T β) (concrete : Signature T) :
    f.applicable concrete = [] ↔ Chain.applicable f.methods concrete = [] :=
  List.map_eq_nil_iff.trans (Chain.layersFor_eq_nil_iff f.methods concrete)

theorem effective_of_applicable_ne_nil {f : GenericFunction T β} {concrete : Signature T}
    (h : f.applicable concrete ≠ []) :
    f.effective concrete =
      Chain.ofLayers ⟨f.name, concrete⟩ (Chain.layersFor f.methods concrete) :=
  Chain.effective_of_applicable (mt (applicable_eq_nil_iff f concrete).2 h)

theorem exists_missing_iff (f : GenericFunction T β) (concrete : Signature T) :
    (∃ origin, f.effective concrete = .stop .missing origin) ↔ f.applicable concrete = [] := by
  constructor
  · rintro ⟨origin, hmissing⟩
    by_contra hsome
    rw [effective_of_applicable_ne_nil hsome] at hmissing
    exact Chain.ofLayers_ne_missing _ _ _ hmissing
  · intro hnone
    exact ⟨_, Chain.effective_of_no_applicable ((applicable_eq_nil_iff f concrete).1 hnone)⟩

/-- A chain has a link for each leading layer of one inner method, and the layer behind them is its
end. -/
theorem effective_walks_applicable (f : GenericFunction T β) (concrete : Signature T) :
    ((∃ origin, f.effective concrete = .stop .missing origin) ↔ f.applicable concrete = []) ∧
    (f.applicable concrete ≠ [] →
      let origin : Origin T := ⟨f.name, concrete⟩
      f.effective concrete = (Chain.layersFor f.methods concrete).reverse.foldl
        (fun seed layer => Chain.place origin layer seed) (.stop .exhausted origin) ∧
      ∃ (lead : List (Signature T × β .inner)) (rest : List (List (Signature T)))
        (last : Chain T β),
        f.applicable concrete = lead.map (fun m => [m.1]) ++ rest ∧
        (∀ m ∈ lead, ⟨m.1, .inner, m.2⟩ ∈ f.methods) ∧
        f.effective concrete = lead.foldr (fun m next => .inner m.1 m.2 next) last ∧
        ((rest = [] ∧ last = .stop .exhausted origin) ∨
          (∃ signature body behind, ⟨signature, .leaf, body⟩ ∈ f.methods ∧
            rest = [signature] :: behind ∧ last = .leaf signature body) ∨
          ∃ tied behind, 2 ≤ tied.length ∧ rest = tied :: behind ∧
            last = .stop (.ambiguous tied) origin)) := by
  refine ⟨exists_missing_iff f concrete, fun hsome => ?_⟩
  intro origin
  have heffective := effective_of_applicable_ne_nil hsome
  have hne : ∀ layer ∈ Chain.layersFor f.methods concrete, layer ≠ [] :=
    fun _ => Specificity.ne_nil_of_mem_layers
  obtain ⟨lead, rest, last, hlayers, hends, hwalk⟩ := Chain.exists_walk_ofLayers origin hne
  have hmem : ∀ layer ∈ lead.map (fun m => [(⟨m.1, .inner, m.2⟩ : Method T β)]) ++ rest,
      ∀ m ∈ layer, m ∈ f.methods :=
    fun layer hlayer m hm => mem_methods_of_mem_layersFor (hlayers ▸ hlayer) hm
  refine ⟨?_, lead, rest.map (·.map (·.signature)), last, ?_, ?_, heffective.trans hwalk, ?_⟩
  · rw [List.foldl_reverse, heffective]
    exact Chain.ofLayers_eq_foldr origin _
  · rw [applicable, hlayers, List.map_append, List.map_map]
    rfl
  · intro m hm
    exact hmem _ (List.mem_append_left rest (List.mem_map_of_mem hm)) _ (List.mem_singleton_self _)
  · cases hends with
    | exhausted => exact Or.inl ⟨rfl, rfl⟩
    | leaf signature body behind =>
      exact Or.inr (Or.inl ⟨signature, body, _, hmem _ (by simp) _ (List.mem_singleton_self _), rfl,
        rfl⟩)
    | tie h behind => exact Or.inr (Or.inr ⟨_, _, by simpa using h, rfl, rfl⟩)

theorem effective_walks_applicable_sides :
    let f : GenericFunction Diamond (Body Diamond Diamond Unit String) :=
      { name := "f", arity := 1
        methods := [Diamond.leaf "t" .top, Diamond.inner "b" .bottom, Diamond.leaf "l" .left,
          Diamond.inner "r" .right] }
    let origin : Origin Diamond := ⟨"f", ⟨[.bottom]⟩⟩
    f.applicable ⟨[.bottom]⟩ = [[⟨[.bottom]⟩], [⟨[.left]⟩, ⟨[.right]⟩], [⟨[.top]⟩]] ∧
    f.effective ⟨[.bottom]⟩ = (Chain.layersFor f.methods ⟨[.bottom]⟩).reverse.foldl
      (fun seed layer => Chain.place origin layer seed) (.stop .exhausted origin) ∧
    f.effective ⟨[.bottom]⟩ = .inner ⟨[.bottom]⟩ (Diamond.inner "b" .bottom).body
      (.stop (.ambiguous [⟨[.left]⟩, ⟨[.right]⟩]) origin) := by
  intro f origin
  have happlicable : f.applicable ⟨[.bottom]⟩ =
      [[⟨[.bottom]⟩], [⟨[.left]⟩, ⟨[.right]⟩], [⟨[.top]⟩]] := by decide +kernel
  have hwalk := (effective_walks_applicable f ⟨[.bottom]⟩).2 (by simp [happlicable])
  have hbest : Chain.mostSpecific (Chain.applicable f.methods ⟨[.bottom]⟩) =
      [Diamond.inner "b" .bottom] := rfl
  refine ⟨happlicable, hwalk.1, (Chain.effective_of_single hbest).trans ?_⟩
  rw [Chain.ofMethods_of_tie _ (by decide +kernel)]
  rfl

end GenericFunction

end Multimethod
