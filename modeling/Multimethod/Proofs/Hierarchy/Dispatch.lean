import Mathlib.Data.List.Perm.Basic
import Multimethod.Proofs.Chain.Additions
import Multimethod.Proofs.Chain.Links
import Multimethod.Proofs.Chain.Order
import Multimethod.Proofs.Function.Specialisation
import Multimethod.Proofs.Hierarchy.Signatures
import Multimethod.Proofs.Store.Dispatch

/-!
# Dispatch on declared types

The types that a program declared are a lawful descriptor of their own.
-/

namespace Multimethod

variable {T U : Type} {β : Kind → Type}

/-! ## Along an embedding -/

section

variable {e : T → U}

theorem Method.map_injective (h : Function.Injective e) :
    Function.Injective (Method.map e : Method T β → Method U β) := by
  rintro ⟨s, _, _⟩ ⟨t, _, _⟩ heq
  injection heq with hsignature hkind hbody
  obtain rfl : s = t := Signature.map_injective h hsignature
  cases hkind
  cases hbody
  rfl

theorem Chain.links_map (c : Chain T β) : (c.map e).links = c.links.map (·.map e) := by
  induction c with
  | leaf | stop => rfl
  | inner signature body next ih => exact congrArg (List.cons _) ih

theorem Chain.methods_map (c : Chain T β) : (c.map e).methods = c.methods.map (·.map e) := by
  induction c with
  | leaf | stop => rfl
  | inner signature body next ih => exact congrArg (List.cons _) ih

theorem Chain.continued_map (c : Chain T β) : (c.map e).continued = c.continued.map e := by
  cases c with
  | leaf | inner => rfl
  | stop cause origin => cases cause <;> rfl

theorem Chain.Agree.map {c d : Chain T β} (h : c.Agree d) : (c.map e).Agree (d.map e) := by
  induction h with
  | leaf signature body => exact .leaf _ _
  | inner signature body _ ih => exact .inner _ _ ih
  | stop cause origin => exact .stop _ _
  | tie hperm origin => exact .tie (hperm.map _) _

variable [Descriptor T] [Descriptor U] (he : Embeds e)

include he

theorem Embeds.mostSpecific_map (methods : List (Method T β)) :
    Chain.mostSpecific (methods.map (·.map e)) = (Chain.mostSpecific methods).map (·.map e) := by
  rw [Chain.mostSpecific, Chain.mostSpecific, List.filter_map]
  congr 1
  refine List.filter_congr fun m _ => ?_
  rw [Function.comp_apply, List.all_map]
  congr 1
  funext other
  exact congrArg not (he.strictlyImplies_map other.signature m.signature)

theorem Embeds.lessSpecific_map (m : Method T β) (methods : List (Method T β))
    (concrete : Signature T) :
    Chain.lessSpecific (m.map e) (methods.map (·.map e)) (concrete.map e) =
      (Chain.lessSpecific m methods concrete).map (·.map e) := by
  rw [Chain.lessSpecific, Chain.lessSpecific, List.filter_map]
  congr 1
  refine List.filter_congr fun other _ => ?_
  exact congrArg₂ and (he.accepts_map other.signature concrete)
    (he.strictlyImplies_map m.signature other.signature)

theorem Embeds.idle_of_map {methods : List (Method T β)} {concrete : Signature T} {m : Method T β}
    (h : Chain.Idle (methods.map (·.map e)) (concrete.map e) (m.map e)) :
    Chain.Idle methods concrete m := by
  rcases h with hrefused | ⟨_, hmem, hkind, haccepts, hbelow⟩
  · exact Or.inl ((he.accepts_map m.signature concrete).symm.trans hrefused)
  · obtain ⟨leaf, hleaf, rfl⟩ := List.mem_map.1 hmem
    exact Or.inr ⟨leaf, hleaf, hkind, (he.accepts_map leaf.signature concrete).symm.trans haccepts,
      (he.strictlyImplies_map leaf.signature m.signature).symm.trans hbelow⟩

end

/-! ## Methods over declared types -/

namespace Realm

variable {r : Realm} {methods : List (Method Tag β)}

theorem Covers.exists_method {m : Method Tag β} (h : r.Covers m.signature) :
    ∃ declared : Method r.Declared β, declared.map (·.1) = m := by
  obtain ⟨signature, hsignature⟩ := h.exists_map
  exact ⟨⟨signature, m.kind, m.body⟩, by rw [Method.map, hsignature]⟩

theorem exists_declared (h : ∀ m ∈ methods, r.Covers m.signature) :
    ∃ declared : List (Method r.Declared β), declared.map (·.map (·.1)) = methods := by
  induction methods with
  | nil => exact ⟨[], rfl⟩
  | cons m rest ih =>
    obtain ⟨hm, hrest⟩ := List.forall_mem_cons.1 h
    obtain ⟨first, rfl⟩ := hm.exists_method
    obtain ⟨declared, rfl⟩ := ih hrest
    exact ⟨first :: declared, rfl⟩

theorem exists_call (h : ∀ m ∈ methods, r.Covers m.signature) {concrete : Signature Tag}
    (hconcrete : r.Covers concrete) :
    ∃ (declared : List (Method r.Declared β)) (types : Signature r.Declared),
      declared.map (·.map (·.1)) = methods ∧ types.map (·.1) = concrete := by
  obtain ⟨declared, hdeclared⟩ := exists_declared h
  obtain ⟨types, htypes⟩ := hconcrete.exists_map
  exact ⟨declared, types, hdeclared, htypes⟩

namespace Sound

open Chain

section

variable (hsound : r.Sound) (hmethods : ∀ m ∈ methods, r.Covers m.signature)
  {concrete : Signature Tag} (hconcrete : r.Covers concrete)

include hsound hmethods hconcrete

theorem effective_of_single {operation : String} {m : Method Tag β}
    (h : mostSpecific (applicable methods concrete) = [m]) :
    effective operation methods concrete =
      bind m (effective operation (lessSpecific m methods concrete) concrete).continued := by
  have := hsound.lawful
  have he := r.embeds_declared
  obtain ⟨methods, concrete, rfl, rfl⟩ := exists_call hmethods hconcrete
  rw [he.applicable_map, he.mostSpecific_map] at h
  obtain ⟨m, hbest, rfl⟩ := List.map_eq_singleton_iff.1 h
  rw [he.effective_map, he.lessSpecific_map, he.effective_map, continued_map, bind_map,
    continued_effective, applicable_lessSpecific, Chain.effective_of_single hbest]

theorem effective_of_tie {operation : String}
    (h : 2 ≤ (mostSpecific (applicable methods concrete)).length) :
    effective operation methods concrete =
      .stop (.ambiguous ((mostSpecific (applicable methods concrete)).map (·.signature)))
        ⟨operation, concrete⟩ := by
  have := hsound.lawful
  have he := r.embeds_declared
  obtain ⟨methods, concrete, rfl, rfl⟩ := exists_call hmethods hconcrete
  rw [he.applicable_map, he.mostSpecific_map] at h ⊢
  rw [List.length_map] at h
  rw [he.effective_map, Chain.effective_of_tie h, Chain.map, Cause.map, List.map_map, List.map_map]
  rfl

theorem next_of_mem_links {operation : String} {signature : Signature Tag} {body : β .inner}
    {next : Chain Tag β}
    (h : .inner signature body next ∈ (effective operation methods concrete).links) :
    ⟨signature, .inner, body⟩ ∈ applicable methods concrete ∧
      next = (effective operation (lessSpecific ⟨signature, .inner, body⟩ methods concrete)
        concrete).continued := by
  have := hsound.lawful
  have he := r.embeds_declared
  obtain ⟨methods, concrete, rfl, rfl⟩ := exists_call hmethods hconcrete
  rw [he.effective_map, links_map] at h
  -- The link over tags is the image of one over the declared types, which is an inner one as well.
  obtain ⟨link, hlink, heq⟩ := List.mem_map.1 h
  cases link with
  | leaf | stop => cases heq
  | inner s b n =>
    cases heq
    obtain ⟨hmem, hnext⟩ := next_of_mem_links_effective hlink
    have hless := he.lessSpecific_map (⟨s, .inner, body⟩ : Method r.Declared β) methods concrete
    refine ⟨?_, ?_⟩
    · rw [he.applicable_map]
      exact List.mem_map_of_mem (f := Method.map (·.1)) hmem
    · rw [Method.map] at hless
      rw [hless, he.effective_map, continued_map, ← hnext]

theorem pairwise_methods (operation : String) : (effective operation methods concrete).methods.Pairwise
    fun a b => a.signature.strictlyImplies b.signature = true := by
  have := hsound.lawful
  have he := r.embeds_declared
  obtain ⟨methods, concrete, rfl, rfl⟩ := exists_call hmethods hconcrete
  rw [he.effective_map, methods_map, List.pairwise_map]
  refine (pairwise_methods_effective operation methods concrete).imp fun {a b} hab => ?_
  exact (he.strictlyImplies_map a.signature b.signature).trans hab

theorem agree_effective (operation : String) {others : List (Method Tag β)} (h : methods.Perm others) :
    (effective operation methods concrete).Agree (effective operation others concrete) := by
  have := hsound.lawful
  have he := r.embeds_declared
  obtain ⟨others, rfl⟩ := exists_declared fun m hm => hmethods m (h.mem_iff.2 hm)
  obtain ⟨methods, concrete, rfl, rfl⟩ := exists_call hmethods hconcrete
  rw [he.effective_map, he.effective_map]
  have hperm : methods.Perm others := (List.map_perm_map_iff (Method.map_injective he.injective)).1 h
  exact (Chain.agree_effective operation hperm concrete).map

theorem effective_concat_of_idle (operation : String) {m : Method Tag β} (hm : r.Covers m.signature)
    (h : Idle methods concrete m) :
    effective operation (methods ++ [m]) concrete = effective operation methods concrete := by
  have := hsound.lawful
  have he := r.embeds_declared
  obtain ⟨methods, concrete, rfl, rfl⟩ := exists_call hmethods hconcrete
  obtain ⟨m, rfl⟩ := hm.exists_method
  have happend : methods.map (·.map (·.1)) ++ [m.map (·.1)] = (methods ++ [m]).map (·.map (·.1)) := by
    rw [List.map_append, List.map_singleton]
  rw [happend, he.effective_map, he.effective_map,
    Chain.effective_concat_of_idle operation (he.idle_of_map h)]

omit hconcrete

theorem applicable_sublist_of_implies {p q : Signature Tag} (hp : r.Covers p) (hq : r.Covers q)
    (h : p.implies q = true) : (applicable methods q).Sublist (applicable methods p) := by
  have := hsound.lawful
  have he := r.embeds_declared
  obtain ⟨methods, rfl⟩ := exists_declared hmethods
  obtain ⟨p, rfl⟩ := hp.exists_map
  obtain ⟨q, rfl⟩ := hq.exists_map
  rw [he.implies_map] at h
  rw [he.applicable_map, he.applicable_map]
  exact (Chain.applicable_sublist_of_implies h).map _

end

/-- A call on values of declared types begins with the most specific method, and names all that tie. -/
theorem invoke_begins (hsound : r.Sound) {A ρ R : Type} [Typed A Tag] {s : Store A Tag ρ R}
    (h : s.Reachable) {f : Nat} {g : GenericFunction Tag (Body A Tag ρ R)}
    (hg : s.functions[f]? = some g) (hmethods : ∀ m ∈ g.methods, r.Covers m.signature)
    {arguments : List A} (harity : g.arity = arguments.length)
    (hconcrete : r.Covers (Signature.of arguments)) (depth : Nat) :
    let best := mostSpecific (applicable g.methods (Signature.of arguments))
    let started := Deed.started (s.deeds (depth + 1) f arguments)
    (∀ m, best = [m] → started.head? = some m) ∧
    (∀ signature body, best = [⟨signature, .leaf, body⟩] →
      ∃ result : Option (R × Store A Tag ρ R), (body arguments).run (Store.invoke depth) nofun
          (s.commit f (g.lookup (Signature.of arguments))) = result.map (fun r => (.ok r.1, r.2)) ∧
        s.invoke (depth + 1) f arguments = result.map fun r => (.ok r.1, r.2)) ∧
    (2 ≤ best.length →
      s.invoke (depth + 1) f arguments = some (.error (.raised ⟨.ambiguous (best.map (·.signature)),
        ⟨g.name, Signature.of arguments⟩, arguments⟩), s.commit f (g.lookup (Signature.of arguments))) ∧
      started = []) := by
  intro best started
  refine ⟨fun m hbest => ?_, fun signature body hbest => ?_, fun htie => ?_⟩
  · exact Store.head_started_of_effective_eq_bind h hg harity
      (hsound.effective_of_single hmethods hconcrete hbest) depth
  · exact Store.invoke_of_effective_eq_leaf h hg harity
      (hsound.effective_of_single hmethods hconcrete hbest) depth
  · exact Store.invoke_of_effective_eq_stop h hg harity
      (hsound.effective_of_tie hmethods hconcrete htie) depth

end Sound

end Realm

end Multimethod
