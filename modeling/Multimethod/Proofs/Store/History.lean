import Multimethod.Proofs.Diamond
import Multimethod.Proofs.Function.Epochs
import Multimethod.Proofs.Hierarchy.Reachable
import Multimethod.Proofs.Store.Requests

/-! # The history of a function -/

namespace Multimethod

variable {A T ρ R : Type}

/-! ## Turns by registration -/

section

variable {β : Kind → Type}

/-- A registration that does not reach the function is no turn of it. -/
def Turn.registration? (m : Method T β) :
    Except (Fault (RegistrationError T)) Unit → Option (Turn T β)
  | .ok _ => some (joined m)
  | .error (.raised _) => some (refused m)
  | .error _ => none

theorem GenericFunction.Becomes.register [DecidableEq T] [Descriptor T] {g₀ g : GenericFunction T β}
    {past : List (Turn T β)} (h : g₀.Becomes past g) (m : Method T β) :
    g₀.Becomes (past ++ (Turn.registration? m ((g.register m).answer.mapError .raised)).toList)
      (g.register m).function := by
  by_cases hm : m.signature ∈ g.signatures
  · have hanswer : (g.register m).answer = .error ⟨g.name, m.signature⟩ := by
      simp [GenericFunction.register, hm]
    rw [hanswer]
    exact h.refused hm
  · have hanswer : (g.register m).answer = .ok () := by simp [GenericFunction.register, hm]
    rw [hanswer]
    exact h.joined hm

end

namespace Store

variable {s t : Store A T ρ R} {f : Nat}

/-! ## What a function sees -/

section

variable [DecidableEq T] [Typed A T]

def turn? (s : Store A T ρ R) (f : Nat) : Deed A T ρ R → Option (Turn T (Body A T ρ R))
  | .register f' m => if f' = f then Turn.registration? m (s.register f' m).1 else none
  | .lookup f' arguments _ => if f' = f then some (.asked (Signature.of arguments)) else none
  | _ => none

variable [Descriptor T]

def turns (f : Nat) : Store A T ρ R → List (Deed A T ρ R) → List (Turn T (Body A T ρ R))
  | _, [] => []
  | s, deed :: rest => (s.turn? f deed).toList ++ (s.does deed).turns f rest

/-- The deeds of a request. A call that nests too deeply comes to nothing. -/
def deedsOf (depth : Nat) (s : Store A T ρ R) : Request A T ρ R → List (Deed A T ρ R)
  | .register f m => [.register f m]
  | .invoke f arguments =>
    if (s.invoke depth f arguments).isSome then s.deeds depth f arguments else []
  | _ => []

def history (depth f : Nat) : Store A T ρ R → List (Request A T ρ R) → List (Turn T (Body A T ρ R))
  | _, [] => []
  | s, request :: rest =>
    s.turns f (s.deedsOf depth request) ++ (s.serve depth request).2.history depth f rest

/-- A program comes from `s` to this store, and meanwhile the function takes these turns. -/
inductive Leads (f : Nat) (s : Store A T ρ R) :
    List (Turn T (Body A T ρ R)) → Store A T ρ R → Prop where
  | start : Leads f s [] s
  | serve {past : List (Turn T (Body A T ρ R))} {t : Store A T ρ R} (h : Leads f s past t)
    (depth : Nat) (request : Request A T ρ R) :
    Leads f s (past ++ t.turns f (t.deedsOf depth request)) (t.serve depth request).2
  | during {past : List (Turn T (Body A T ρ R))} {t : Store A T ρ R} (h : Leads f s past t)
    {depth f' : Nat} {arguments : List A} {done rest : List (Deed A T ρ R)}
    (hdeeds : t.deeds depth f' arguments = done ++ rest) :
    Leads f s (past ++ t.turns f done) (t.after done)
  | recorded {past : List (Turn T (Body A T ρ R))} {t : Store A T ρ R} (h : Leads f s past t)
    (log : Array String) (events : Array (Nat × Event T)) : Leads f s past { t with log, events }

theorem Leads.serveAll {past : List (Turn T (Body A T ρ R))} (h : s.Leads f past t) (depth : Nat)
    (requests : List (Request A T ρ R)) :
    s.Leads f (past ++ t.history depth f requests) (t.serveAll depth requests).2 := by
  induction requests generalizing past t with
  | nil =>
    rw [history, List.append_nil]
    exact h
  | cons request rest ih =>
    have hrest := ih (h.serve depth request)
    rwa [List.append_assoc] at hrest

end

/-! ## A function takes its turns -/

section

variable {g₀ g : GenericFunction T (Body A T ρ R)} {past : List (Turn T (Body A T ρ R))}

theorem functions_commit_self (hg : s.functions[f]? = some g) {α : Type}
    (step : Step T (Body A T ρ R) α) : (s.commit f step).functions[f]? = some step.function :=
  List.getElem?_set_self (List.getElem?_eq_some_iff.1 hg).1

theorem functions_commit_of_ne {f' : Nat} (hne : f' ≠ f) {α : Type}
    (step : Step T (Body A T ρ R) α) : (s.commit f' step).functions[f]? = s.functions[f]? :=
  List.getElem?_set_ne hne

variable [DecidableEq T] [Descriptor T]

def Carries (s : Store A T ρ R) (f : Nat) (g₀ : GenericFunction T (Body A T ρ R))
    (past : List (Turn T (Body A T ρ R))) : Prop :=
  ∃ g, s.functions[f]? = some g ∧ g₀.Becomes past g

theorem Carries.unseen (h : s.Carries f g₀ past) (hfunctions : t.functions = s.functions) :
    t.Carries f g₀ (past ++ []) := by
  unfold Carries
  rw [hfunctions, List.append_nil]
  exact h

variable [Typed A T]

theorem Carries.register (h : s.Carries f g₀ past) (f' : Nat) (m : Method T (Body A T ρ R)) :
    (s.register f' m).2.Carries f g₀ (past ++ (s.turn? f (.register f' m)).toList) := by
  obtain ⟨g, hg, hbecomes⟩ := h
  simp only [turn?]
  by_cases hf : f' = f
  · subst hf
    simp only [if_true]
    unfold Store.register
    by_cases harity : g.arity = m.signature.arity
    · rw [find_eq_ok_iff.2 ⟨hg, harity⟩]
      exact ⟨_, functions_commit_self hg _, hbecomes.register m⟩
    · have hfind : s.find (ε := RegistrationError T) f' m.signature.arity = .error .arityMismatch := by
        simp [Store.find, hg, harity]
      rw [hfind]
      simpa [Turn.registration?] using ⟨g, hg, hbecomes⟩
  · refine ⟨g, ?_, by simpa [hf] using hbecomes⟩
    unfold Store.register
    split
    · exact hg
    · exact (functions_commit_of_ne hf _).trans hg

theorem Carries.does (h : s.Carries f g₀ past) (deed : Deed A T ρ R) :
    (s.does deed).Carries f g₀ (past ++ (s.turn? f deed).toList) := by
  cases deed with
  | log line => exact h.unseen rfl
  | register f' m => exact h.register f' m
  | lookup f' arguments chain =>
    obtain ⟨g, hg, hbecomes⟩ := h
    by_cases hf : f' = f
    · subst hf
      refine ⟨(g.lookup (Signature.of arguments)).function, ?_, ?_⟩
      · simp only [Store.does, hg, Option.elim_some]
        exact functions_commit_self hg _
      · simpa [turn?] using hbecomes.asked (Signature.of arguments)
    · refine ⟨g, ?_, by simpa [turn?, hf] using hbecomes⟩
      cases hg' : s.functions[f']? with
      | none => simpa [Store.does, hg'] using hg
      | some g' =>
        simp only [Store.does, hg', Option.elim_some]
        exact (functions_commit_of_ne hf _).trans hg
  | start m => exact h.unseen rfl

theorem Carries.after (h : s.Carries f g₀ past) (deeds : List (Deed A T ρ R)) :
    (s.after deeds).Carries f g₀ (past ++ s.turns f deeds) := by
  induction deeds generalizing s past with
  | nil => exact h.unseen rfl
  | cons deed rest ih =>
    have hrest := ih (h.does deed)
    rwa [List.append_assoc] at hrest

theorem Carries.serve (h : s.Carries f g₀ past) (depth : Nat) (request : Request A T ρ R) :
    (s.serve depth request).2.Carries f g₀ (past ++ s.turns f (s.deedsOf depth request)) := by
  cases request with
  | create name arity config =>
    obtain ⟨g, hg, hbecomes⟩ := h
    have hlt := (List.getElem?_eq_some_iff.1 hg).1
    refine ⟨g, (List.getElem?_append_left hlt).trans hg, ?_⟩
    simpa [deedsOf, turns] using hbecomes
  | register f' m => exact h.after [.register f' m]
  | invoke f' arguments =>
    unfold Store.serve deedsOf
    match hanswer : s.invoke depth f' arguments with
    | none =>
      simp only [hanswer, Option.isSome_none, Bool.false_eq_true, if_false]
      exact h.unseen rfl
    | some (answer, s') =>
      simp only [hanswer, Option.isSome_some, if_true]
      rw [eq_after_of_invoke hanswer]
      exact h.after _
  | _ => exact h.unseen rfl

theorem Leads.carries (h : s.Leads f past t) (hg : s.functions[f]? = some g₀) :
    t.Carries f g₀ past := by
  induction h with
  | start => exact ⟨g₀, hg, .start⟩
  | serve h depth request ih => exact ih.serve depth request
  | during h hdeeds ih => exact ih.after _
  | recorded h log events ih => exact ih

/-! ## One resolution for each epoch -/

/-- At every moment a function with a cache takes a chain from it exactly for the signatures that
were asked for since a method last joined. -/
theorem remembers_epoch (s₀ : Store A T ρ R) {name : String} {arity : Nat} {config : Config}
    (henabled : config.cache.enabled = true) {past : List (Turn T (Body A T ρ R))}
    {t : Store A T ρ R}
    (h : (s₀.add { name, arity, config }).2.Leads s₀.functions.length past t) :
    let f := s₀.functions.length
    (∃ g, t.functions[f]? = some g ∧ g.Remembers past ∧
      ∀ depth arguments, arguments.length = arity →
        t.invoke (depth + 1) f arguments =
          ((g.lookup (Signature.of arguments)).answer.run (Store.invoke depth) arguments
            (t.commit f (g.lookup (Signature.of arguments)))).map fun r =>
              (r.1.mapError .raised, r.2)) ∧
    (∀ depth f' arguments' done arguments chain rest,
      t.deeds depth f' arguments' = done ++ .lookup f arguments chain :: rest →
      ∃ g, (t.after done).functions[f]? = some g ∧ chain = (g.lookup (Signature.of arguments)).answer ∧
        g.Remembers (past ++ t.turns f done)) ∧
    ∀ realm : Realm, realm.Reachable → ∀ p q : Signature Tag,
      (∀ t ∈ p.types, t ∈ realm.tags) → (∀ t ∈ q.types, t ∈ realm.tags) →
      (p = q ↔ p.types.map (·.serial) = q.types.map (·.serial)) := by
  intro f
  have hcreated : (s₀.add { name, arity, config }).2.functions[f]? = some { name, arity, config } :=
    List.getElem?_concat_length
  refine ⟨?_, fun depth f' arguments' done arguments chain rest hdeeds => ?_,
    fun realm hrealm p q hp hq => hrealm.sound.signature_eq_iff hp hq⟩
  · obtain ⟨g, hg, hbecomes⟩ := h.carries hcreated
    refine ⟨g, hg, hbecomes.remembers henabled rfl, fun depth arguments hlength => ?_⟩
    have harity : g.arity = arity := congrArg (·.2.1) hbecomes.profile_eq
    exact invoke_succ hg (harity.trans hlength.symm) depth
  · -- What was done so far belongs to the history at the moment of the lookup.
    obtain ⟨g, hg, hbecomes⟩ := (h.during hdeeds).carries hcreated
    have hhold := (tell_deeds depth f' arguments' t).hold
    rw [hdeeds, Deed.allHold_append] at hhold
    obtain ⟨g', hg', -, hchain⟩ := hhold.2.1
    obtain rfl := Option.some.inj (hg.symm.trans hg')
    exact ⟨g, hg, hchain, hbecomes.remembers henabled rfl⟩

theorem remembers_epoch_learner :
    let s : Store Diamond Diamond Unit String := (add { scope := () } { name := "f", arity := 1 }).2
    let requests : List (Request Diamond Diamond Unit String) :=
      [.invoke 0 [.left], .register 0 (Diamond.learner 0), .invoke 0 [.bottom],
        .applicable 0 [.left], .register 0 (Diamond.leaf "again" .bottom), .invoke 0 [.bottom]]
    s.Leads 0 (s.history 2 0 requests) (s.serveAll 2 requests).2 ∧
    ∃ g, (s.serveAll 2 requests).2.functions[0]? = some g ∧ g.cachedSignatures = 1 ∧
      g.Hits ⟨[.bottom]⟩ ∧ g.Resolves ⟨[.left]⟩ := by
  intro s requests
  have h : s.Leads 0 (s.history 2 0 requests) (s.serveAll 2 requests).2 :=
    Leads.start.serveAll 2 requests
  have hepoch : Turn.epoch (s.history 2 0 requests) = [⟨[.bottom]⟩, ⟨[.bottom]⟩] := by
    decide +kernel
  have henabled : ({} : Config).cache.enabled = true := rfl
  obtain ⟨⟨g, hg, hremembers, -⟩, -⟩ := remembers_epoch { scope := () } henabled h
  refine ⟨h, g, hg, ?_, ?_, ?_⟩
  · rw [hremembers.count, hepoch]
    decide
  · rw [hremembers.hits, hepoch]
    decide
  · rw [hremembers.resolves, hepoch]
    decide

end

end Store

end Multimethod
