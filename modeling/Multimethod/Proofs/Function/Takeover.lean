import Multimethod.Proofs.Chain.Additions
import Multimethod.Proofs.Chain.Links
import Multimethod.Proofs.Hierarchy.Signatures
import Multimethod.Proofs.Specificity.Extremes

/-! # Methods that take over -/

namespace Multimethod

variable {β : Kind → Type}

namespace Chain

variable {T : Type} [Descriptor T]

theorem ofMethods_concat_of_above (origin : Origin T) {methods : List (Method T β)} {m : Method T β}
    (h : ∀ other ∈ methods, m.signature.strictlyImplies other.signature = true) :
    ofMethods origin (methods ++ [m]) = bind m (ofMethods origin methods) := by
  rw [ofMethods, ofMethods, Specificity.layers_concat_of_above h]
  rfl

theorem effective_concat_of_above (operation : String) {methods : List (Method T β)}
    {concrete : Signature T} {m : Method T β} (haccepts : m.signature.accepts concrete = true)
    (h : ∀ other ∈ applicable methods concrete,
      m.signature.strictlyImplies other.signature = true) :
    effective operation (methods ++ [m]) concrete =
      bind m (effective operation methods concrete).continued := by
  have hconcat : applicable (methods ++ [m]) concrete = applicable methods concrete ++ [m] :=
    applicable_concat_of_accepts haccepts
  have hne : applicable (methods ++ [m]) concrete ≠ [] := by simp [hconcat]
  rw [effective_eq_ofMethods hne, hconcat, ofMethods_concat_of_above _ h, continued_effective]

end Chain

namespace GenericFunction

variable {f : GenericFunction Tag β} {r : Realm} {m : Method Tag β}

theorem strictlyImplies_of_mem_applicable (hr : r.Sound) (hf : ∀ p ∈ f.signatures, r.Covers p)
    (hs : r.Covers m.signature) (hnew : m.signature ∉ f.signatures) :
    ∀ other ∈ Chain.applicable f.methods m.signature,
      m.signature.strictlyImplies other.signature = true := by
  intro other hother
  obtain ⟨hmem, haccepts⟩ := List.mem_filter.1 hother
  have hsignature : other.signature ∈ f.signatures := List.mem_map_of_mem hmem
  refine hr.strictlyImplies_of_ne hs (hf _ hsignature) haccepts ?_
  rintro hsame
  exact hnew (hsame ▸ hsignature)

theorem effective_register_of_exact (hr : r.Sound) (hf : ∀ p ∈ f.signatures, r.Covers p)
    (hs : r.Covers m.signature) (hnew : m.signature ∉ f.signatures) :
    (f.register m).function.effective m.signature =
      Chain.bind m (f.effective m.signature).continued := by
  have hname : (f.register m).function.name = f.name :=
    congrArg Prod.fst (profile_register f m)
  rw [effective, effective, methods_register_of_not_mem hnew, hname]
  exact Chain.effective_concat_of_above f.name (hr.implies_refl hs)
    (strictlyImplies_of_mem_applicable hr hf hs hnew)

theorem answer_lookup_register_of_exact (hr : r.Sound) (hf : ∀ p ∈ f.signatures, r.Covers p)
    (hs : r.Covers m.signature) (hnew : m.signature ∉ f.signatures) :
    ((f.register m).function.lookup m.signature).answer =
      Chain.bind m (f.effective m.signature).continued := by
  have hempty := coherent_of_cache_eq_nil (cache_register_of_not_mem hnew)
  rw [hempty.answer_lookup, effective_register_of_exact hr hf hs hnew]

/-- A method declared for just these types takes their calls over. As a leaf it answers alone, and
as an inner method it goes on to the chain of before. -/
theorem exact_signature_takes_over (h : r.Reachable) (hf : ∀ p ∈ f.signatures, r.Covers p)
    {s : Signature Tag} (hs : r.Covers s) (hnew : s ∉ f.signatures) :
    (∀ body, let step := f.register ⟨s, .leaf, body⟩
      step.answer = .ok () ∧ step.function.effective s = .leaf s body ∧
      (step.function.lookup s).answer = .leaf s body) ∧
    ∀ body, let step := f.register ⟨s, .inner, body⟩
      step.answer = .ok () ∧ step.function.effective s = .inner s body (f.effective s).continued ∧
      (step.function.lookup s).answer = .inner s body (f.effective s).continued := by
  have hanswer : ∀ kind body, (f.register ⟨s, kind, body⟩).answer = .ok () := by simp [register, hnew]
  refine ⟨fun body => ⟨hanswer .leaf body, ?_, ?_⟩, fun body => ⟨hanswer .inner body, ?_, ?_⟩⟩
  · exact effective_register_of_exact h.sound hf hs hnew
  · exact answer_lookup_register_of_exact h.sound hf hs hnew
  · exact effective_register_of_exact h.sound hf hs hnew
  · exact answer_lookup_register_of_exact h.sound hf hs hnew

theorem exact_signature_takes_over_namesakes :
    let f := Namesakes.function
    let both : Signature Tag := ⟨[Namesakes.both, Namesakes.both]⟩
    let strangers : Signature Tag := ⟨[Namesakes.stranger, Namesakes.stranger]⟩
    let tie := [⟨[Namesakes.left, Namesakes.object]⟩, ⟨[Namesakes.object, Namesakes.right]⟩]
    f.effective both = .stop (.ambiguous tie) ⟨"f", both⟩ ∧
    (f.register ⟨both, .inner, ()⟩).function.effective both =
      .inner both () (.stop (.ambiguous tie) ⟨"f", both⟩) ∧
    (f.register ⟨both, .leaf, ()⟩).function.effective both = .leaf both () ∧
    f.effective strangers = .stop .missing ⟨"f", strangers⟩ ∧
    (f.register ⟨strangers, .inner, ()⟩).function.effective strangers =
      .inner strangers () (.stop .exhausted ⟨"f", strangers⟩) := by
  intro f both strangers tie
  have htie : f.effective both = .stop (.ambiguous tie) ⟨"f", both⟩ := by with_unfolding_all rfl
  have hmissing : f.effective strangers = .stop .missing ⟨"f", strangers⟩ := by with_unfolding_all rfl
  have hboth := exact_signature_takes_over Namesakes.follows.reachable Namesakes.covers_function
    (s := both) (by unfold Realm.Covers; decide +kernel) (by decide +kernel)
  have hstrangers := exact_signature_takes_over Namesakes.follows.reachable
    Namesakes.covers_function (s := strangers) (by unfold Realm.Covers; decide +kernel)
    (by decide +kernel)
  refine ⟨htie, (hboth.2 ()).2.1.trans ?_, (hboth.1 ()).2.1, hmissing, (hstrangers.2 ()).2.1.trans ?_⟩
  · rw [htie]
    rfl
  · rw [hmissing]
    rfl

end GenericFunction

end Multimethod
