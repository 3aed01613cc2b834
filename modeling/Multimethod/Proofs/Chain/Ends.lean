import Multimethod.Proofs.Chain.Links
import Multimethod.Proofs.Chain.Walk

/-! # Where chains end -/

namespace Multimethod

variable {T : Type} {β : Kind → Type}

namespace Chain

theorem exists_last (chain : Chain T β) :
    ∃ last, chain.links.getLast? = some last ∧
      ((∃ signature body, last = .leaf signature body) ∨ ∃ cause origin, last = .stop cause origin) := by
  induction chain with
  | leaf signature body => exact ⟨_, rfl, Or.inl ⟨signature, body, rfl⟩⟩
  | inner signature body next ih =>
    obtain ⟨last, hlast, hend⟩ := ih
    exact ⟨last, by simp [links, List.getLast?_cons, hlast], hend⟩
  | stop cause origin => exact ⟨_, rfl, Or.inr ⟨cause, origin, rfl⟩⟩

theorem mem_methods_of_leaf_mem_links {signature : Signature T} {body : β .leaf} {chain : Chain T β}
    (h : .leaf signature body ∈ chain.links) : ⟨signature, .leaf, body⟩ ∈ chain.methods := by
  induction chain with
  | leaf s b =>
    obtain ⟨rfl, rfl⟩ : signature = s ∧ body = b := by simpa [links] using h
    exact List.mem_singleton_self _
  | inner s b next ih => exact List.mem_cons_of_mem _ (ih (by simpa [links] using h))
  | stop cause origin => simp [links] at h

/-! ## Stops -/

theorem stop_mem_links_foldr_inner {cause : Cause T} {o : Origin T} {last : Chain T β}
    (lead : List (Signature T × β .inner)) :
    .stop cause o ∈ (lead.foldr (fun m next => .inner m.1 m.2 next) last).links ↔
      .stop cause o ∈ last.links := by
  induction lead with
  | nil => rfl
  | cons m lead ih => exact stop_mem_links_inner.trans ih

theorem cause_of_stop_mem_links {origin o : Origin T} {cause : Cause T}
    {layers : List (List (Method T β))} (hne : ∀ layer ∈ layers, layer ≠ [])
    (h : .stop cause o ∈ (ofLayers origin layers).links) :
    o = origin ∧
      ((cause = .exhausted ∧ ∀ layer ∈ layers, ∃ m, m.kind = .inner ∧ layer = [m]) ∨
        ∃ tied ∈ layers, 2 ≤ tied.length ∧ cause = .ambiguous (tied.map (·.signature))) := by
  obtain ⟨lead, rest, last, hlayers, hends, hwalk⟩ := exists_walk_ofLayers origin hne
  rw [hwalk, stop_mem_links_foldr_inner] at h
  cases hends with
  | exhausted =>
    obtain ⟨rfl, rfl⟩ : cause = .exhausted ∧ o = origin := by simpa [links] using h
    refine ⟨rfl, Or.inl ⟨rfl, fun layer hlayer => ?_⟩⟩
    rw [hlayers, List.append_nil] at hlayer
    obtain ⟨m, -, rfl⟩ := List.mem_map.1 hlayer
    exact ⟨_, rfl, rfl⟩
  | leaf => simp [links] at h
  | tie htie behind =>
    obtain ⟨rfl, rfl⟩ : cause = _ ∧ o = origin := by simpa [links] using h
    exact ⟨rfl, Or.inr ⟨_, by simp [hlayers], htie, rfl⟩⟩

variable [Descriptor T]

theorem cause_of_stop_mem_links_effective {operation : String} {methods : List (Method T β)}
    {concrete : Signature T} {cause : Cause T} {o : Origin T}
    (h : .stop cause o ∈ (effective operation methods concrete).links) :
    o = ⟨operation, concrete⟩ ∧
      (cause ∈ [.missing, .exhausted] ∧ (∀ m ∈ applicable methods concrete, m.kind = .inner) ∨
        ∃ tied ∈ layersFor methods concrete, 2 ≤ tied.length ∧
          cause = .ambiguous (tied.map (·.signature))) := by
  by_cases hnone : applicable methods concrete = []
  · rw [effective_of_no_applicable hnone] at h
    obtain ⟨rfl, rfl⟩ : cause = .missing ∧ o = ⟨operation, concrete⟩ := by simpa [links] using h
    exact ⟨rfl, Or.inl (by simp [hnone])⟩
  · rw [effective_of_applicable hnone] at h
    obtain ⟨ho, hcause⟩ := cause_of_stop_mem_links (fun _ => Specificity.ne_nil_of_mem_layers) h
    refine ⟨ho, hcause.imp_left ?_⟩
    rintro ⟨rfl, hinner⟩
    refine ⟨by simp, fun m hm => ?_⟩
    obtain ⟨layer, hlayer, hmem⟩ := List.mem_flatten.1
      ((Specificity.perm_flatten_layers _ (applicable methods concrete)).mem_iff.2 hm)
    obtain ⟨other, hkind, rfl⟩ := hinner layer hlayer
    rwa [List.mem_singleton.1 hmem]

theorem no_applicable_of_missing_mem_links {operation : String} {methods : List (Method T β)}
    {concrete : Signature T} {o : Origin T}
    (h : .stop .missing o ∈ (effective operation methods concrete).links) :
    applicable methods concrete = [] := by
  by_contra hsome
  rw [effective_of_applicable hsome] at h
  obtain ⟨-, ⟨hcause, -⟩ | ⟨_, -, -, hcause⟩⟩ :=
    cause_of_stop_mem_links (fun _ => Specificity.ne_nil_of_mem_layers) h
  · cases hcause
  · cases hcause

/-- Only what comes behind a method can be exhausted. -/
theorem effective_ne_exhausted (operation : String) (methods : List (Method T β))
    (concrete : Signature T) (o : Origin T) :
    effective operation methods concrete ≠ .stop .exhausted o := by
  by_cases hnone : applicable methods concrete = []
  · rw [effective_of_no_applicable hnone]
    nofun
  · rw [effective_of_applicable hnone]
    have hsome := mt (layersFor_eq_nil_iff methods concrete).1 hnone
    match layersFor methods concrete, hsome with
    | [] :: _, _ | (_ :: _ :: _) :: _, _ => nofun
    | [⟨_, .leaf, _⟩] :: _, _ | [⟨_, .inner, _⟩] :: _, _ => nofun

/-! ## Calls that a leaf applies to -/

variable {operation : String} {methods : List (Method T β)} {concrete : Signature T}
  {leaf : Method T β}

theorem cause_of_stop_of_leaf (hleaf : leaf ∈ applicable methods concrete) (hkind : leaf.kind = .leaf)
    {cause : Cause T} {o : Origin T}
    (h : .stop cause o ∈ (effective operation methods concrete).links) :
    o = ⟨operation, concrete⟩ ∧ ∃ tied, 2 ≤ tied.length ∧ cause = .ambiguous tied := by
  obtain ⟨ho, ⟨-, hinner⟩ | ⟨tied, -, hlength, hcause⟩⟩ := cause_of_stop_mem_links_effective h
  · rw [hinner leaf hleaf] at hkind
    cases hkind
  · exact ⟨ho, _, by simpa using hlength, hcause⟩

theorem exists_last_of_leaf (hleaf : leaf ∈ applicable methods concrete) (hkind : leaf.kind = .leaf) :
    ∃ last, (effective operation methods concrete).links.getLast? = some last ∧
      ((∃ signature body, last = .leaf signature body ∧ ⟨signature, .leaf, body⟩ ∈ methods) ∨
        ∃ tied, 2 ≤ tied.length ∧ last = .stop (.ambiguous tied) ⟨operation, concrete⟩) := by
  obtain ⟨last, hlast, hend⟩ := (effective operation methods concrete).exists_last
  have hmem := List.mem_of_getLast? hlast
  refine ⟨last, hlast, hend.imp ?_ ?_⟩
  · rintro ⟨signature, body, rfl⟩
    exact ⟨signature, body, rfl, mem_of_mem_methods_effective (mem_methods_of_leaf_mem_links hmem)⟩
  · rintro ⟨cause, o, rfl⟩
    obtain ⟨rfl, tied, hlength, rfl⟩ := cause_of_stop_of_leaf hleaf hkind hmem
    exact ⟨tied, hlength, rfl⟩

end Chain

/-! ## The layers of a function -/

namespace GenericFunction

variable [Descriptor T] {f : GenericFunction T β} {concrete : Signature T}
  {layer : List (Signature T)}

theorem sublist_of_mem_applicable (h : layer ∈ f.applicable concrete) :
    layer.Sublist f.signatures := by
  obtain ⟨methods, hmethods, rfl⟩ := List.mem_map.1 h
  exact ((Specificity.sublist_of_mem_layers hmethods).trans List.filter_sublist).map _

theorem not_strictlyImplies_of_mem_applicable (h : layer ∈ f.applicable concrete) :
    ∀ p ∈ layer, ∀ q ∈ layer, ¬ p.strictlyImplies q = true := by
  obtain ⟨methods, hmethods, rfl⟩ := List.mem_map.1 h
  intro p hp q hq
  obtain ⟨a, ha, rfl⟩ := List.mem_map.1 hp
  obtain ⟨b, hb, rfl⟩ := List.mem_map.1 hq
  exact Specificity.not_strictly_of_mem_layers hmethods a ha b hb

theorem accepts_of_mem_applicable (h : layer ∈ f.applicable concrete) :
    ∀ p ∈ layer, p.accepts concrete = true := by
  obtain ⟨methods, hmethods, rfl⟩ := List.mem_map.1 h
  intro p hp
  obtain ⟨m, hm, rfl⟩ := List.mem_map.1 hp
  exact (List.mem_filter.1 (Specificity.mem_of_mem_layers hmethods hm)).2

theorem mem_applicable_of_tie_mem_links {candidates : List (Signature T)} {origin : Origin T}
    (h : .stop (.ambiguous candidates) origin ∈ (f.effective concrete).links) :
    candidates ∈ f.applicable concrete ∧ 2 ≤ candidates.length := by
  obtain ⟨-, ⟨hcause, -⟩ | ⟨tied, htied, hlength, hcause⟩⟩ :=
    Chain.cause_of_stop_mem_links_effective h
  · simp at hcause
  · obtain rfl : candidates = _ := Cause.ambiguous.inj hcause
    exact ⟨List.mem_map_of_mem htied, by simpa using hlength⟩

end GenericFunction

end Multimethod
