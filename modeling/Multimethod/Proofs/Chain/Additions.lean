import Multimethod.Proofs.Chain.Effective
import Multimethod.Proofs.Diamond
import Multimethod.Proofs.Function

/-! # Methods that join without effect -/

namespace Multimethod

variable {T : Type} {β : Kind → Type} [Descriptor T]

namespace Chain

theorem applicable_concat_of_accepts {methods : List (Method T β)} {m : Method T β}
    {concrete : Signature T} (h : m.signature.accepts concrete = true) :
    applicable (methods ++ [m]) concrete = applicable methods concrete ++ [m] := by
  simp [applicable, h]

theorem applicable_concat_of_not_accepts {methods : List (Method T β)} {m : Method T β}
    {concrete : Signature T} (h : m.signature.accepts concrete = false) :
    applicable (methods ++ [m]) concrete = applicable methods concrete := by
  simp [applicable, h]

theorem effective_congr {operation : String} {methods others : List (Method T β)}
    {concrete : Signature T} (h : applicable methods concrete = applicable others concrete) :
    effective operation methods concrete = effective operation others concrete := by
  rw [effective, effective, layersFor, layersFor, h]

variable [LawfulDescriptor T]

theorem mostSpecific_concat_of_below {methods : List (Method T β)} {m : Method T β}
    (h : ∃ other ∈ methods, other.signature.strictlyImplies m.signature = true) :
    mostSpecific (methods ++ [m]) = mostSpecific methods :=
  Specificity.filter_topmost_concat_of_below Method.implies_transitive h

theorem beneath_concat_of_below {first other m : Method T β} {methods : List (Method T β)}
    (hother : other ∈ beneath first methods)
    (hbelow : other.signature.strictlyImplies m.signature = true) :
    beneath first (methods ++ [m]) = beneath first methods ++ [m] := by
  have hm : first.signature.strictlyImplies m.signature = true :=
    Specificity.strictly_trans Method.implies_transitive (List.mem_filter.1 hother).2 hbelow
  simp [beneath, hm]

/-- All that a method below a leaf can change stands behind that leaf. -/
theorem ofMethods_concat_of_shadowed (origin : Origin T) {m leaf : Method T β}
    (hkind : leaf.kind = .leaf) (hbelow : leaf.signature.strictlyImplies m.signature = true)
    (methods : List (Method T β)) (hleaf : leaf ∈ methods) :
    ofMethods origin (methods ++ [m]) = ofMethods origin methods := by
  have hsame := mostSpecific_concat_of_below ⟨leaf, hleaf, hbelow⟩
  induction methods using descend with
  | nil => cases hleaf
  | single methods first hbest ih =>
    rw [ofMethods_of_single origin hbest, ofMethods_of_single origin (hsame.trans hbest)]
    have hfirst := Specificity.eq_or_strictly_of_single Method.implies_transitive hbest hleaf
    obtain ⟨signature, _ | _, body⟩ := first
    · rfl
    · -- The leaf is another method than the inner one in front, so it stands beneath it.
      have hbeneath : leaf ∈ beneath ⟨signature, .inner, body⟩ methods := by
        refine List.mem_filter.2 ⟨hleaf, hfirst.resolve_left ?_⟩
        rintro rfl
        cases hkind
      rw [beneath_concat_of_below hbeneath hbelow,
        ih hbeneath (mostSpecific_concat_of_below ⟨leaf, hbeneath, hbelow⟩)]
  | tie methods htie =>
    rw [ofMethods_of_tie origin htie, ofMethods_of_tie origin (hsame.symm ▸ htie), hsame]

/-- A method that does not apply, or that a leaf among those that do is strictly above. -/
def Idle (methods : List (Method T β)) (concrete : Signature T) (m : Method T β) : Prop :=
  m.signature.accepts concrete = false ∨
    ∃ leaf ∈ methods, leaf.kind = .leaf ∧ leaf.signature.accepts concrete = true ∧
      leaf.signature.strictlyImplies m.signature = true

theorem effective_concat_of_idle (operation : String) {methods : List (Method T β)}
    {concrete : Signature T} {m : Method T β} (h : Idle methods concrete m) :
    effective operation (methods ++ [m]) concrete = effective operation methods concrete := by
  by_cases hm : m.signature.accepts concrete = true
  · obtain ⟨leaf, hleaf, hkind, haccepts, hbelow⟩ := h.resolve_left (by simp [hm])
    have hmem : leaf ∈ applicable methods concrete := List.mem_filter.2 ⟨hleaf, haccepts⟩
    have hconcat : applicable (methods ++ [m]) concrete = applicable methods concrete ++ [m] :=
      applicable_concat_of_accepts hm
    rw [effective_eq_ofMethods (List.ne_nil_of_mem hmem), effective_eq_ofMethods (by simp [hconcat]),
      hconcat]
    exact ofMethods_concat_of_shadowed _ hkind hbelow _ hmem
  · exact effective_congr (applicable_concat_of_not_accepts (by simpa using hm))

end Chain

namespace GenericFunction

variable [DecidableEq T] [LawfulDescriptor T]

/-- A new method that does not apply, or that is strictly below a leaf that does, changes nothing in
the chain. -/
theorem effective_register_of_idle (f : GenericFunction T β) {m : Method T β}
    (hnew : m.signature ∉ f.signatures) {concrete : Signature T}
    (h : m.signature.accepts concrete = false ∨
      ∃ leaf ∈ f.methods, leaf.kind = .leaf ∧ leaf.signature.accepts concrete = true ∧
        leaf.signature.strictlyImplies m.signature = true) :
    (f.register m).function.methods = f.methods ++ [m] ∧
    (f.register m).function.effective concrete = f.effective concrete ∧
    (f.Coherent → ((f.register m).function.lookup concrete).answer = (f.lookup concrete).answer) := by
  have hmethods := methods_register_of_not_mem hnew
  have hname : (f.register m).function.name = f.name :=
    congrArg Prod.fst (profile_register f m)
  have heffective : (f.register m).function.effective concrete = f.effective concrete := by
    rw [effective, effective, hmethods, hname]
    exact Chain.effective_concat_of_idle f.name h
  refine ⟨hmethods, heffective, fun hf => ?_⟩
  rw [(hf.register m).answer_lookup, hf.answer_lookup, heffective]

theorem effective_register_of_idle_left :
    let f : GenericFunction Diamond (Body Diamond Diamond Unit String) :=
      { name := "f", arity := 1, methods := [Diamond.inner "t" .top, Diamond.leaf "b" .bottom] }
    let g := (f.register (Diamond.inner "l" .left)).function
    f.applicable ⟨[.bottom]⟩ = [[⟨[.bottom]⟩], [⟨[.top]⟩]] ∧
    g.applicable ⟨[.bottom]⟩ = [[⟨[.bottom]⟩], [⟨[.left]⟩], [⟨[.top]⟩]] ∧
    g.effective ⟨[.bottom]⟩ = f.effective ⟨[.bottom]⟩ := by
  intro f g
  refine ⟨by decide +kernel, by decide +kernel, ?_⟩
  exact (effective_register_of_idle f (m := Diamond.inner "l" .left) (by decide)
    (Or.inr ⟨Diamond.leaf "b" .bottom, by simp [f], rfl, by decide, by decide⟩)).2.1

end GenericFunction

end Multimethod
