import Mathlib.Data.List.Forall2
import Multimethod.Proofs.Chain.Effective
import Multimethod.Proofs.Diamond
import Multimethod.Proofs.Function

/-! # The order of registration -/

namespace Multimethod

variable {T : Type} {β : Kind → Type}

namespace Chain

/-- The same links and the same end, though what ties may be named in another order. -/
inductive Agree : Chain T β → Chain T β → Prop where
  | leaf (signature : Signature T) (body : β .leaf) :
    Agree (.leaf signature body) (.leaf signature body)
  | inner (signature : Signature T) (body : β .inner) {next other : Chain T β}
      (h : Agree next other) : Agree (.inner signature body next) (.inner signature body other)
  | stop (cause : Cause T) (origin : Origin T) : Agree (.stop cause origin) (.stop cause origin)
  | tie {candidates others : List (Signature T)} (h : candidates.Perm others) (origin : Origin T) :
    Agree (.stop (.ambiguous candidates) origin) (.stop (.ambiguous others) origin)

theorem Agree.bind (m : Method T β) {next other : Chain T β} (h : Agree next other) :
    Agree (bind m next) (bind m other) := by
  obtain ⟨signature, _ | _, body⟩ := m
  · exact .leaf signature body
  · exact .inner signature body h

theorem agree_ofLayers (origin : Origin T) {layers others : List (List (Method T β))}
    (h : List.Forall₂ List.Perm layers others) :
    Agree (ofLayers origin layers) (ofLayers origin others) := by
  induction h with
  | nil => exact .stop _ _
  | @cons layer other _ _ hperm _ ih =>
    match layer, other, hperm.length_eq with
    | [], [], _ => exact .stop _ _
    | [m], [m'], _ =>
      obtain rfl : m = m' := by simpa using hperm
      exact ih.bind m
    | _ :: _ :: _, _ :: _ :: _, _ => exact .tie (hperm.map _) origin

variable [Descriptor T] [LawfulDescriptor T]

theorem forall₂_perm_layersFor {methods others : List (Method T β)} (h : methods.Perm others)
    (concrete : Signature T) :
    List.Forall₂ List.Perm (layersFor methods concrete) (layersFor others concrete) :=
  Specificity.forall₂_perm_layers Method.implies_transitive (h.filter _)

theorem agree_effective (operation : String) {methods others : List (Method T β)}
    (h : methods.Perm others) (concrete : Signature T) :
    Agree (effective operation methods concrete) (effective operation others concrete) := by
  have happlicable : (applicable methods concrete).Perm (applicable others concrete) := h.filter _
  by_cases hnone : applicable methods concrete = []
  · have hnone' : applicable others concrete = [] := (hnone ▸ happlicable).nil_eq.symm
    rw [effective_of_no_applicable hnone, effective_of_no_applicable hnone']
    exact .stop _ _
  · have hsome : applicable others concrete ≠ [] :=
      fun hnil => hnone (hnil ▸ happlicable).eq_nil
    rw [effective_of_applicable hnone, effective_of_applicable hsome]
    exact agree_ofLayers _ (forall₂_perm_layersFor h concrete)

end Chain

namespace GenericFunction

variable [DecidableEq T]

def registerAll (f : GenericFunction T β) (methods : List (Method T β)) : GenericFunction T β :=
  methods.foldl (fun f m => (f.register m).function) f

theorem methods_registerAll {f : GenericFunction T β} {methods : List (Method T β)}
    (h : (f.signatures ++ methods.map (·.signature)).Nodup) :
    (f.registerAll methods).methods = f.methods ++ methods := by
  induction methods generalizing f with
  | nil => exact (List.append_nil _).symm
  | cons m rest ih =>
    have hnew : m.signature ∉ f.signatures := fun hmem =>
      (List.nodup_append.1 h).2.2 _ hmem _ List.mem_cons_self rfl
    have hmethods := methods_register_of_not_mem hnew
    have hrest : ((f.register m).function.signatures ++ rest.map (·.signature)).Nodup := by
      rw [signatures, hmethods]
      simpa [signatures] using h
    rw [registerAll, List.foldl_cons]
    exact (ih hrest).trans (by simp [hmethods])

theorem profile_registerAll (f : GenericFunction T β) (methods : List (Method T β)) :
    (f.registerAll methods).profile = f.profile :=
  List.foldlRecOn methods _ (motive := fun g => g.profile = f.profile) rfl fun g hg m _ =>
    (profile_register g m).trans hg

theorem Coherent.registerAll [Descriptor T] {f : GenericFunction T β} (hf : f.Coherent)
    (methods : List (Method T β)) : (f.registerAll methods).Coherent :=
  List.foldlRecOn methods _ hf fun _ hg m _ => hg.register m

/-- The methods of a new function may join in any order: all of them join, and its chains agree link
by link. -/
theorem lookup_agrees_of_registration_order [Descriptor T] [LawfulDescriptor T] (name : String)
    (arity : Nat) (config : Config) {methods others : List (Method T β)}
    (hdistinct : (methods.map (·.signature)).Nodup) (h : methods.Perm others)
    (concrete : Signature T) :
    let f := registerAll { name, arity, config } methods
    let g := registerAll { name, arity, config } others
    f.methods = methods ∧ g.methods = others ∧
    (f.effective concrete).Agree (g.effective concrete) ∧
    (f.lookup concrete).answer.Agree (g.lookup concrete).answer ∧
    List.Forall₂ List.Perm (f.applicable concrete) (g.applicable concrete) := by
  intro f g
  have hf : f.methods = methods := methods_registerAll (by simpa [signatures] using hdistinct)
  have hg : g.methods = others :=
    methods_registerAll (by simpa [signatures] using (h.map _).nodup_iff.1 hdistinct)
  have hname : ∀ methods : List (Method T β),
      (registerAll { name, arity, config } methods).name = name := fun methods =>
    congrArg Prod.fst (profile_registerAll _ methods)
  have heffective : (f.effective concrete).Agree (g.effective concrete) := by
    rw [effective, effective, hf, hg, hname, hname]
    exact Chain.agree_effective name h concrete
  have hcoherent : ∀ methods : List (Method T β),
      (registerAll { name, arity, config } methods).Coherent :=
    (coherent_of_cache_eq_nil rfl).registerAll
  refine ⟨hf, hg, heffective, ?_, ?_⟩
  · rw [(hcoherent methods).answer_lookup, (hcoherent others).answer_lookup]
    exact heffective
  · rw [applicable, applicable, hf, hg, List.forall₂_map_left_iff, List.forall₂_map_right_iff]
    exact (Chain.forall₂_perm_layersFor h concrete).imp fun _ _ hperm => hperm.map _

theorem lookup_agrees_of_registration_order_sides :
    let methods := [Diamond.leaf "r" .right, Diamond.inner "b" .bottom, Diamond.leaf "l" .left]
    let f := registerAll { name := "f", arity := 1 } methods
    let g := registerAll { name := "f", arity := 1 } methods.reverse
    (f.effective ⟨[.bottom]⟩).Agree (g.effective ⟨[.bottom]⟩) ∧
    f.applicable ⟨[.bottom]⟩ = [[⟨[.bottom]⟩], [⟨[.right]⟩, ⟨[.left]⟩]] ∧
    g.applicable ⟨[.bottom]⟩ = [[⟨[.bottom]⟩], [⟨[.left]⟩, ⟨[.right]⟩]] := by
  intro methods f g
  have hdistinct : (methods.map (·.signature)).Nodup := by decide
  have hagree := lookup_agrees_of_registration_order "f" 1 {} hdistinct methods.reverse_perm.symm
    ⟨[.bottom]⟩
  exact ⟨hagree.2.2.1, by decide +kernel, by decide +kernel⟩

end GenericFunction

end Multimethod
