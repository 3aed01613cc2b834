import Multimethod.Proofs.Chain.Ends
import Multimethod.Proofs.Function
import Multimethod.Proofs.Hierarchy.Roots
import Multimethod.Proofs.Specificity.Extremes

/-! # Leaves for the root -/

namespace Multimethod.GenericFunction

variable {β : Kind → Type} {f : GenericFunction Tag β} {r : Realm} {g : Hierarchy} {root : Tag}
  {concrete : Signature Tag} {body : β .leaf}

theorem roots_last_of_applicable (h : r.Reachable) (hg : g ∈ r.hierarchies)
    (hroot : g.root = some root) (hconcrete : ∀ t ∈ concrete.types, t ∈ g.types)
    (hleaf : ⟨Signature.uniform concrete.arity root, .leaf, body⟩ ∈ f.methods)
    (hdistinct : f.signatures.Nodup) (hf : ∀ p ∈ f.signatures, r.Covers p) :
    ∃ front, f.applicable concrete = front ++ [[Signature.uniform concrete.arity root]] := by
  have haccepts := h.accepts_roots hg hroot hconcrete
  have hbelow : ∀ m ∈ Chain.applicable f.methods concrete,
      m = ⟨Signature.uniform concrete.arity root, .leaf, body⟩ ∨
        m.signature.strictlyImplies (Signature.uniform concrete.arity root) = true := by
    intro m hm
    obtain ⟨hmem, hmaccepts⟩ := List.mem_filter.1 hm
    -- No two signatures of declared types imply each other, so any other method is strictly above.
    by_cases hsame : m.signature = Signature.uniform concrete.arity root
    · exact Or.inl (List.inj_on_of_nodup_map hdistinct hmem hleaf hsame)
    · have hcovers := hf _ (List.mem_map_of_mem hmem)
      exact Or.inr (h.sound.strictlyImplies_of_ne hcovers (hf _ (List.mem_map_of_mem hleaf))
        (h.implies_roots hg hroot hconcrete hcovers hmaccepts) hsame)
  have hmem : ⟨Signature.uniform concrete.arity root, .leaf, body⟩ ∈
      Chain.applicable f.methods concrete := List.mem_filter.2 ⟨hleaf, haccepts⟩
  have hlayers : ∃ front, Chain.layersFor f.methods concrete = front ++ [[_]] :=
    Specificity.layers_of_below hbelow hmem
      ((List.Nodup.of_map _ hdistinct).sublist List.filter_sublist)
  obtain ⟨front, hfront⟩ := hlayers
  refine ⟨front.map (·.map (·.signature)), ?_⟩
  rw [applicable, hfront, List.map_append]
  rfl

/-- With a leaf for the root at each position, calls on types of its hierarchy come to a leaf or to
a tie. -/
theorem root_leaf_makes_total {V : Type} (h : r.Reachable) (hg : g ∈ r.hierarchies)
    (hroot : g.root = some root) {arguments : List (Tagged V)}
    (harguments : ∀ a ∈ arguments, a.tag ∈ g.types)
    (hleaf : ⟨.uniform arguments.length root, .leaf, body⟩ ∈ f.methods) :
    let concrete := Signature.of arguments
    let chain := f.effective concrete
    (∀ cause origin, .stop cause origin ∈ chain.links → cause ≠ .missing ∧ cause ≠ .exhausted) ∧
    (∃ last, chain.links.getLast? = some last ∧
      ((∃ signature body, last = .leaf signature body ∧ ⟨signature, .leaf, body⟩ ∈ f.methods) ∨
        ∃ tied, 2 ≤ tied.length ∧ last = .stop (.ambiguous tied) ⟨f.name, concrete⟩)) ∧
    (f.Coherent → (f.lookup concrete).answer = chain) ∧
    (f.signatures.Nodup → (∀ p ∈ f.signatures, r.Covers p) →
      ∃ front, f.applicable concrete = front ++ [[.uniform arguments.length root]]) := by
  intro concrete chain
  have harity : arguments.length = concrete.arity := (List.length_map _).symm
  have hconcrete : ∀ t ∈ concrete.types, t ∈ g.types := List.forall_mem_map.2 harguments
  rw [harity] at hleaf ⊢
  have happlicable : ⟨.uniform concrete.arity root, .leaf, body⟩ ∈
      Chain.applicable f.methods concrete :=
    List.mem_filter.2 ⟨hleaf, h.accepts_roots hg hroot hconcrete⟩
  refine ⟨fun cause origin hstop => ?_, Chain.exists_last_of_leaf happlicable rfl,
    fun hcoherent => hcoherent.answer_lookup concrete,
    roots_last_of_applicable h hg hroot hconcrete hleaf⟩
  obtain ⟨-, tied, -, rfl⟩ := Chain.cause_of_stop_of_leaf happlicable rfl hstop
  exact ⟨nofun, nofun⟩

theorem root_leaf_makes_total_namesakes :
    let f := Namesakes.function
    let rights : List (Tagged Nat) := [⟨Namesakes.right, 0⟩, ⟨Namesakes.right, 1⟩]
    let boths : List (Tagged Nat) := [⟨Namesakes.both, 0⟩, ⟨Namesakes.both, 1⟩]
    let roots : Signature Tag := .uniform 2 Namesakes.object
    (∃ front, f.applicable (.of rights) = front ++ [[roots]]) ∧
    f.effective (.of rights) = .inner ⟨[Namesakes.object, Namesakes.right]⟩ () (.leaf roots ()) ∧
    (∃ front, f.applicable (.of boths) = front ++ [[roots]]) ∧
    ∃ last, (f.effective (.of boths)).links.getLast? = some last ∧
      ((∃ signature body, last = .leaf signature body ∧ ⟨signature, .leaf, body⟩ ∈ f.methods) ∨
        ∃ tied, 2 ≤ tied.length ∧ last = .stop (.ambiguous tied) ⟨"f", .of boths⟩) := by
  intro f rights boths roots
  have hmem : ⟨roots, .leaf, ()⟩ ∈ f.methods :=
    List.mem_cons_of_mem _ (List.mem_cons_of_mem _ List.mem_cons_self)
  have hrights := root_leaf_makes_total Namesakes.follows.reachable List.mem_cons_self rfl
    (show ∀ a ∈ rights, a.tag ∈ _ by decide) hmem
  have hboths := root_leaf_makes_total Namesakes.follows.reachable List.mem_cons_self rfl
    (show ∀ a ∈ boths, a.tag ∈ _ by decide) hmem
  have hdistinct : f.signatures.Nodup := by decide +kernel
  exact ⟨hrights.2.2.2 hdistinct Namesakes.covers_function, by with_unfolding_all rfl,
    hboths.2.2.2 hdistinct Namesakes.covers_function, hboths.2.1⟩

end Multimethod.GenericFunction
