import Multimethod.Proofs.Chain.Links
import Multimethod.Proofs.Store.Deeds

/-!
# What a call comes to in its chain

An inner body goes on to the next link any number of times, so the bodies decide in which order a call
comes to the links of its chain.
-/

namespace Multimethod

variable {A T ρ R : Type}

inductive Visit (A T ρ R : Type) where
  | begins (m : Method T (Body A T ρ R))
  | raises (error : DispatchError A T)

namespace Visit

def begun? : Visit A T ρ R → Option (Method T (Body A T ρ R))
  | begins m => some m
  | raises _ => none

def begun (visits : List (Visit A T ρ R)) : List (Method T (Body A T ρ R)) :=
  visits.filterMap begun?

end Visit

def Action.pass : Action A T ρ R .inner :=
  .next fun
    | .ok result => .done result
    | .error error => .fail error

variable [DecidableEq T]

/-- The stores in which a body goes on to the next link, one after the other. -/
def Action.onward (call : Nat → List A → Run A T ρ R (Except (Fault (DispatchError A T)) R)) :
    {k : Kind} → Action A T ρ R k → (k = .inner → Below A T ρ R) → Store A T ρ R →
      List (Store A T ρ R)
  | _, .done _, _, _ => []
  | _, .log line rest, below, s => rest.onward call below { s with log := s.log.push line }
  | _, .ask use, below, s => (use s.scope).onward call below s
  | _, .size f use, below, s => (use (s.size f)).onward call below s
  | _, .cached f use, below, s => (use (s.cached f)).onward call below s
  | _, .invoke f arguments use, below, s =>
    match call f arguments s with
    | none => []
    | some (answer, s) => (use answer).onward call below s
  | _, .register f signature kind body use, below, s =>
    let (answer, s) := s.register f ⟨signature, kind, body⟩
    (use answer).onward call below s
  | _, .next use, below, s =>
    s ::
      match (below rfl).run s with
      | none => []
      | some (answer, s) => (use answer).onward call below s
  | _, .describe use, below, s => (use (below rfl).outline).onward call below s
  | _, .fail _, _, _ => []

section

variable {call : Nat → List A → Run A T ρ R (Except (Fault (DispatchError A T)) R)}
  {during : Nat → List A → Store A T ρ R → List (Deed A T ρ R)}

theorem Action.begun_sublist_started {visits : Store A T ρ R → List (Visit A T ρ R)} {k : Kind}
    {onward : k = .inner → Store A T ρ R → List (Deed A T ρ R)}
    (honward : ∀ hk u, (Visit.begun (visits u)).Sublist (Deed.started (onward hk u)))
    (a : Action A T ρ R k) (below : k = .inner → Below A T ρ R) (s : Store A T ρ R) :
    (Visit.begun ((a.onward call below s).flatMap visits)).Sublist
      (Deed.started (a.deeds call during below onward s)) := by
  induction a generalizing s with
  | done result => exact List.nil_sublist _
  | log line rest ih => exact ih honward below _
  | ask use ih => exact ih _ honward below s
  | size f use ih => exact ih _ honward below s
  | cached f use ih => exact ih _ honward below s
  | invoke f arguments use ih =>
    simp only [Action.onward, Action.deeds]
    cases call f arguments s with
    | none => exact List.nil_sublist _
    | some r =>
      rw [Deed.started, List.filterMap_append]
      exact (ih r.1 honward below r.2).trans (List.sublist_append_right _ _)
  | register f signature kind body use ihbody ih => exact ih _ honward below _
  | next use ih =>
    rw [Action.onward, Action.deeds, Deed.started, List.filterMap_append, List.flatMap_cons,
      Visit.begun, List.filterMap_append]
    refine (honward rfl s).append ?_
    cases (below rfl).run s with
    | none => exact List.nil_sublist _
    | some r => exact ih r.1 honward below r.2
  | describe use ih => exact ih _ honward below s
  | fail error => exact List.nil_sublist _

namespace Chain

variable {arguments : List A} {error : DispatchError A T} {s : Store A T ρ R}

def visits (call : Nat → List A → Run A T ρ R (Except (Fault (DispatchError A T)) R))
    (arguments : List A) : Chain T (Body A T ρ R) → Store A T ρ R → List (Visit A T ρ R)
  | .leaf signature body, _ => [.begins ⟨signature, .leaf, body⟩]
  | .inner signature body next, s =>
    .begins ⟨signature, .inner, body⟩ ::
      ((body arguments).onward call (fun _ => ⟨next.run call arguments, next.outline⟩) s).flatMap
        (next.visits call arguments)
  | .stop cause origin, _ => [.raises ⟨cause, origin, arguments⟩]

theorem exists_stop_of_raises {chain : Chain T (Body A T ρ R)}
    (h : .raises error ∈ chain.visits call arguments s) :
    ∃ cause origin, .stop cause origin ∈ chain.links ∧ error = ⟨cause, origin, arguments⟩ := by
  induction chain generalizing s with
  | leaf signature body => simp [visits] at h
  | inner signature body next ih =>
    rw [visits, List.mem_cons, List.mem_flatMap] at h
    obtain ⟨t, -, hraises⟩ := h.resolve_left nofun
    obtain ⟨cause, origin, hlink, herror⟩ := ih hraises
    exact ⟨cause, origin, List.mem_cons_of_mem _ hlink, herror⟩
  | stop cause origin =>
    rw [visits, List.mem_singleton] at h
    exact ⟨cause, origin, List.mem_singleton_self _, Visit.raises.inj h⟩

theorem visits_before_raises {chain : Chain T (Body A T ρ R)} {before after : List (Visit A T ρ R)}
    (h : chain.visits call arguments s = before ++ .raises error :: after) :
    ((∃ cause origin, chain = .stop cause origin) ∧ before = []) ∨
      ∃ signature body next, chain = .inner signature body next ∧
        .begins ⟨signature, .inner, body⟩ ∈ before := by
  cases chain with
  | leaf signature body =>
    have hmem : .raises error ∈ (leaf signature body).visits call arguments s := by simp [h]
    simp [visits] at hmem
  | inner signature body next =>
    cases before with
    | nil => cases (List.cons.inj h).1
    | cons first rest =>
      obtain rfl : _ = first := (List.cons.inj h).1
      exact Or.inr ⟨signature, body, next, rfl, List.mem_cons_self⟩
  | stop cause origin =>
    rcases List.append_eq_singleton_iff.1 h.symm with ⟨hbefore, -⟩ | ⟨-, hafter⟩
    · exact Or.inl ⟨⟨cause, origin, rfl⟩, hbefore⟩
    · cases hafter

theorem begun_visits_sublist_started (chain : Chain T (Body A T ρ R)) (s : Store A T ρ R) :
    (Visit.begun (chain.visits call arguments s)).Sublist
      (Deed.started (chain.deeds call during arguments s)) := by
  induction chain generalizing s with
  | leaf signature body => exact (List.nil_sublist _).cons_cons _
  | inner signature body next ih =>
    exact (Action.begun_sublist_started (fun _ => ih) (body arguments) _ s).cons_cons _
  | stop cause origin => exact List.nil_sublist _

end Chain

end

end Multimethod
