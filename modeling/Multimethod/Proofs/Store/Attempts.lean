import Multimethod.Proofs.Function.Attempts
import Multimethod.Proofs.Store.History

/-! # The first registration wins -/

namespace Multimethod.Store

variable {A T ρ R : Type} [DecidableEq T] {s t : Store A T ρ R} {f : Nat} {name : String}
  {arity : Nat} {config : Config} {past : List (Turn T (Body A T ρ R))}

theorem register_eq {g : GenericFunction T (Body A T ρ R)} (hg : s.functions[f]? = some g)
    {m : Method T (Body A T ρ R)} (harity : g.arity = m.signature.arity) :
    s.register f m = ((g.register m).answer.mapError .raised, s.commit f (g.register m)) := by
  rw [Store.register, find_eq_ok_iff.2 ⟨hg, harity⟩]

def AddsFirst (s : Store A T ρ R) (f : Nat) (name : String) (arity : Nat)
    (past : List (Turn T (Body A T ρ R))) : Prop :=
  ∃ g, s.functions[f]? = some g ∧ g.name = name ∧ g.FirstWins past ∧
    ∀ m, m.signature.arity = arity →
      s.register f m = ((g.register m).answer.mapError .raised, s.commit f (g.register m))

variable [Descriptor T] [Typed A T] {s₀ : Store A T ρ R}

theorem Leads.addsFirst
    (h : (s₀.add { name, arity, config }).2.Leads s₀.functions.length past t) :
    t.AddsFirst s₀.functions.length name arity past := by
  obtain ⟨g, hg, hbecomes⟩ := h.carries List.getElem?_concat_length
  have hprofile := hbecomes.profile_eq
  refine ⟨g, hg, congrArg (·.1) hprofile, hbecomes.firstWins rfl, fun m hm => register_eq hg ?_⟩
  exact (congrArg (·.2.1) hprofile).trans hm.symm

/-- At every moment the methods of a function are the first ones offered to it under each signature,
and any other attempt leaves it as it is. -/
theorem first_registration_wins
    (h : (s₀.add { name, arity, config }).2.Leads s₀.functions.length past t) :
    let f := s₀.functions.length
    t.AddsFirst f name arity past ∧
    (∀ depth f' arguments done m rest,
      t.deeds depth f' arguments = done ++ .register f m :: rest →
      (t.after done).AddsFirst f name arity (past ++ t.turns f done)) ∧
    ∀ realm : Realm, realm.Reachable → ∀ p q : Signature Tag,
      (∀ t ∈ p.types, t ∈ realm.tags) → (∀ t ∈ q.types, t ∈ realm.tags) →
      (p = q ↔ p.types.map (·.serial) = q.types.map (·.serial)) := by
  intro f
  refine ⟨h.addsFirst, fun depth f' arguments done m rest hdeeds => ?_,
    fun realm hrealm p q hp hq => hrealm.sound.signature_eq_iff hp hq⟩
  exact (h.during hdeeds).addsFirst

theorem first_registration_wins_learner :
    let empty : Store Diamond Diamond Unit String := { scope := () }
    let s := (empty.add { name := "f", arity := 1 }).2
    let requests : List (Request Diamond Diamond Unit String) :=
      [.register 0 (Diamond.learner 0), .invoke 0 [.bottom],
        .register 0 (Diamond.inner "again" .bottom), .register 0 (Diamond.leaf "l" .left),
        .register 0 (Diamond.inner "late" .bottom)]
    s.Leads 0 (s.history 2 0 requests) (s.serveAll 2 requests).2 ∧
    ∃ g, (s.serveAll 2 requests).2.functions[0]? = some g ∧
      g.signatures = [⟨[.top]⟩, ⟨[.bottom]⟩, ⟨[.left]⟩] ∧
      (g.register (Diamond.inner "again" .bottom)).answer = .error ⟨"f", ⟨[.bottom]⟩⟩ ∧
      (g.register (Diamond.inner "r" .right)).answer = .ok () := by
  intro empty s requests
  have h : (empty.add { name := "f", arity := 1 }).2.Leads empty.functions.length
      (s.history 2 0 requests) (s.serveAll 2 requests).2 :=
    Leads.start.serveAll 2 requests
  have hattempted : Turn.attempted (s.history 2 0 requests) =
      [⟨[.top]⟩, ⟨[.bottom]⟩, ⟨[.bottom]⟩, ⟨[.left]⟩, ⟨[.bottom]⟩] := by
    decide +kernel
  obtain ⟨⟨g, hg, hname, hwins, -⟩, -⟩ := first_registration_wins h
  refine ⟨h, g, hg, ?_, ?_, ?_⟩
  · rw [hwins.signatures, hattempted]
    decide
  · cases hanswer : (g.register (Diamond.inner "again" .bottom)).answer with
    | ok _ =>
      have hnew := (hwins.succeeds_iff _).1 hanswer
      rw [hattempted] at hnew
      exact absurd (by decide) hnew
    | error e =>
      rw [(hwins.refuses _ e hanswer).1, hname]
      rfl
  · rw [hwins.succeeds_iff, hattempted]
    decide

end Multimethod.Store
