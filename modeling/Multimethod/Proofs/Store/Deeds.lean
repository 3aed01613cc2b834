import Multimethod.Store

/-!
# What happens during a call

A call is a list of deeds, those of the calls nested in it included, and the store after the call is the
store before it with the deeds done in turn.
-/

namespace Multimethod

inductive Deed (A T ρ R : Type) where
  | log (line : String)
  | register (f : Nat) (m : Method T (Body A T ρ R))
  | lookup (f : Nat) (arguments : List A) (chain : Chain T (Body A T ρ R))
  | start (m : Method T (Body A T ρ R))

variable {A T ρ R : Type}

namespace Deed

def started? : Deed A T ρ R → Option (Method T (Body A T ρ R))
  | start m => some m
  | _ => none

/-- The methods whose bodies begin, in this order. -/
def started (deeds : List (Deed A T ρ R)) : List (Method T (Body A T ρ R)) :=
  deeds.filterMap started?

end Deed

variable [DecidableEq T]

/-! ## The deeds of bodies, chains and calls -/

/-- The deeds of a body, until it ends or calls are nested too deeply. Each call that it makes does
`during`, and going on to the next method does `onward`. -/
def Action.deeds (call : Nat → List A → Run A T ρ R (Except (Fault (DispatchError A T)) R))
    (during : Nat → List A → Store A T ρ R → List (Deed A T ρ R)) :
    {k : Kind} → Action A T ρ R k → (k = .inner → Below A T ρ R) →
      (k = .inner → Store A T ρ R → List (Deed A T ρ R)) → Store A T ρ R → List (Deed A T ρ R)
  | _, .done _, _, _, _ => []
  | _, .log line rest, below, onward, s =>
    .log line :: rest.deeds call during below onward { s with log := s.log.push line }
  | _, .ask use, below, onward, s => (use s.scope).deeds call during below onward s
  | _, .size f use, below, onward, s => (use (s.size f)).deeds call during below onward s
  | _, .cached f use, below, onward, s => (use (s.cached f)).deeds call during below onward s
  | _, .invoke f arguments use, below, onward, s =>
    during f arguments s ++
      match call f arguments s with
      | none => []
      | some (answer, s) => (use answer).deeds call during below onward s
  | _, .register f signature kind body use, below, onward, s =>
    let (answer, s') := s.register f ⟨signature, kind, body⟩
    .register f ⟨signature, kind, body⟩ :: (use answer).deeds call during below onward s'
  | _, .next use, below, onward, s =>
    onward rfl s ++
      match (below rfl).run s with
      | none => []
      | some (answer, s) => (use answer).deeds call during below onward s
  | _, .describe use, below, onward, s =>
    (use (below rfl).outline).deeds call during below onward s
  | _, .fail _, _, _, _ => []

def Chain.deeds (call : Nat → List A → Run A T ρ R (Except (Fault (DispatchError A T)) R))
    (during : Nat → List A → Store A T ρ R → List (Deed A T ρ R)) (arguments : List A) :
    Chain T (Body A T ρ R) → Store A T ρ R → List (Deed A T ρ R)
  | .leaf signature body, s =>
    .start ⟨signature, .leaf, body⟩ :: (body arguments).deeds call during nofun nofun s
  | .inner signature body next, s =>
    .start ⟨signature, .inner, body⟩ ::
      (body arguments).deeds call during (fun _ => ⟨next.run call arguments, next.outline⟩)
        (fun _ => next.deeds call during arguments) s
  | .stop _ _, _ => []

variable [Descriptor T] [Typed A T]

def Store.deeds : (depth : Nat) → (f : Nat) → (arguments : List A) → Store A T ρ R →
    List (Deed A T ρ R)
  | 0, _, _, _ => []
  | depth + 1, f, arguments, s =>
    match s.find (ε := DispatchError A T) f arguments.length with
    | .error _ => []
    | .ok g =>
      let step := g.lookup (Signature.of arguments)
      .lookup f arguments step.answer ::
        step.answer.deeds (Store.invoke depth) (Store.deeds depth) arguments (s.commit f step)

/-! ## Doing deeds -/

namespace Store

def does (s : Store A T ρ R) : Deed A T ρ R → Store A T ρ R
  | .log line => { s with log := s.log.push line }
  | .register f m => (s.register f m).2
  | .lookup f arguments _ =>
    s.functions[f]?.elim s fun g => s.commit f (g.lookup (Signature.of arguments))
  | .start _ => s

def after (s : Store A T ρ R) (deeds : List (Deed A T ρ R)) : Store A T ρ R := deeds.foldl does s

@[simp] theorem after_nil (s : Store A T ρ R) : s.after [] = s := rfl

@[simp] theorem after_cons (s : Store A T ρ R) (deed : Deed A T ρ R) (rest : List (Deed A T ρ R)) :
    s.after (deed :: rest) = (s.does deed).after rest := rfl

theorem after_append (s : Store A T ρ R) (p q : List (Deed A T ρ R)) :
    s.after (p ++ q) = (s.after p).after q := List.foldl_append

theorem after_invariant {P : Store A T ρ R → Prop} (hdoes : ∀ s deed, P s → P (s.does deed))
    {s : Store A T ρ R} (h : P s) (deeds : List (Deed A T ρ R)) : P (s.after deeds) := by
  induction deeds generalizing s with
  | nil => exact h
  | cons deed rest ih => exact ih (hdoes s deed h)

end Store

/-- The chain of a lookup is the one that the function finds in the store as it is. -/
def Deed.Holds (s : Store A T ρ R) : Deed A T ρ R → Prop
  | lookup f arguments chain => ∃ g, s.functions[f]? = some g ∧ g.arity = arguments.length ∧
    chain = (g.lookup (Signature.of arguments)).answer
  | _ => True

def Deed.AllHold : Store A T ρ R → List (Deed A T ρ R) → Prop
  | _, [] => True
  | s, deed :: rest => deed.Holds s ∧ AllHold (s.does deed) rest

theorem Deed.allHold_append {s : Store A T ρ R} {p q : List (Deed A T ρ R)} :
    AllHold s (p ++ q) ↔ AllHold s p ∧ AllHold (s.after p) q := by
  induction p generalizing s with
  | nil => simp [AllHold]
  | cons deed rest ih => simp [AllHold, ih, and_assoc]

/-- The deeds tell how a run came to its result. -/
structure Deed.Tell {α : Type} (s : Store A T ρ R) (deeds : List (Deed A T ρ R))
    (result : Option (α × Store A T ρ R)) : Prop where
  hold : AllHold s deeds
  store : ∀ answer s', result = some (answer, s') → s' = s.after deeds

namespace Deed.Tell

variable {α γ : Type} {s : Store A T ρ R}

theorem nil (result : Option α) : Tell s [] (result.map (·, s)) where
  hold := trivial
  store := by
    intro answer s' h
    cases result <;> simp_all

theorem unanswered {deeds : List (Deed A T ρ R)} (h : AllHold s deeds) :
    Tell s deeds (none : Option (α × Store A T ρ R)) where
  hold := h
  store := by simp

theorem cons {deed : Deed A T ρ R} {rest : List (Deed A T ρ R)} {s' : Store A T ρ R}
    {result : Option (α × Store A T ρ R)} (hdeed : deed.Holds s) (hs : s.does deed = s')
    (h : Tell s' rest result) : Tell s (deed :: rest) result := by
  subst hs
  exact ⟨⟨hdeed, h.hold⟩, h.store⟩

theorem map {deeds : List (Deed A T ρ R)} {result : Option (α × Store A T ρ R)}
    (h : Tell s deeds result) (f : α → γ) :
    Tell s deeds (result.map fun r => (f r.1, r.2)) where
  hold := h.hold
  store := by
    rintro _ _ heq
    obtain ⟨⟨answer, s'⟩, hresult, ⟨⟩⟩ := Option.map_eq_some_iff.1 heq
    exact h.store answer s' hresult

theorem append {deeds rest : List (Deed A T ρ R)} {answer : α} {s' : Store A T ρ R}
    {result : Option (γ × Store A T ρ R)} (h : Tell s deeds (some (answer, s')))
    (hrest : Tell s' rest result) : Tell s (deeds ++ rest) result := by
  obtain rfl := h.store answer s' rfl
  exact ⟨allHold_append.2 ⟨h.hold, hrest.hold⟩, fun b t hb => by
    rw [hrest.store b t hb, Store.after_append]⟩

end Deed.Tell

/-! ## A call is its deeds -/

section

variable {call : Nat → List A → Run A T ρ R (Except (Fault (DispatchError A T)) R)}
  {during : Nat → List A → Store A T ρ R → List (Deed A T ρ R)}

theorem Action.tell_deeds (hcall : ∀ f arguments s, Deed.Tell s (during f arguments s)
    (call f arguments s)) {k : Kind} (a : Action A T ρ R k) (below : k = .inner → Below A T ρ R)
    (onward : k = .inner → Store A T ρ R → List (Deed A T ρ R))
    (hbelow : ∀ h s, Deed.Tell s (onward h s) ((below h).run s)) (s : Store A T ρ R) :
    Deed.Tell s (a.deeds call during below onward s) (a.run call below s) := by
  induction a generalizing s with
  | done result => exact .nil (some _)
  | log line rest ih => exact .cons trivial rfl (ih below onward hbelow _)
  | ask use ih => exact ih _ below onward hbelow s
  | size f use ih => exact ih _ below onward hbelow s
  | cached f use ih => exact ih _ below onward hbelow s
  | invoke f arguments use ih =>
    -- Too deep a call leaves no store, but its deeds up to there still hold.
    have h := hcall f arguments s
    simp only [Action.deeds, Action.run]
    match hanswer : call f arguments s with
    | none => simpa using Deed.Tell.unanswered h.hold
    | some (answer, s') => exact (hanswer ▸ h).append (ih answer below onward hbelow s')
  | register f signature kind body use ihbody ih =>
    exact .cons trivial rfl (ih _ below onward hbelow _)
  | next use ih =>
    have h := hbelow rfl s
    simp only [Action.deeds, Action.run]
    match hanswer : (below rfl).run s with
    | none => simpa using Deed.Tell.unanswered h.hold
    | some (answer, s') => exact (hanswer ▸ h).append (ih answer below onward hbelow s')
  | describe use ih => exact ih _ below onward hbelow s
  | fail error => exact .nil (some _)

theorem Chain.tell_deeds (hcall : ∀ f arguments s, Deed.Tell s (during f arguments s)
    (call f arguments s)) (arguments : List A) (chain : Chain T (Body A T ρ R))
    (s : Store A T ρ R) :
    Deed.Tell s (chain.deeds call during arguments s) (chain.run call arguments s) := by
  induction chain generalizing s with
  | leaf signature body =>
    exact .cons trivial rfl (Action.tell_deeds hcall (body arguments) nofun nofun nofun s)
  | inner signature body next ih =>
    exact .cons trivial rfl (Action.tell_deeds hcall (body arguments) _ _ (fun _ => ih) s)
  | stop cause origin => exact .nil (some _)

end

namespace Store

variable {s : Store A T ρ R} {f : Nat} {g : GenericFunction T (Body A T ρ R)} {arguments : List A}

omit [DecidableEq T] [Descriptor T] [Typed A T] in
theorem find_eq_ok_iff {ε : Type} {arity : Nat} :
    s.find (ε := ε) f arity = .ok g ↔ s.functions[f]? = some g ∧ g.arity = arity := by
  unfold Store.find
  cases s.functions[f]? with
  | none => simp
  | some g' =>
    by_cases harity : g'.arity = arity
    · simp only [harity, if_true, Except.ok.injEq, Option.some.injEq, iff_self_and]
      rintro rfl
      exact harity
    · simp only [harity, if_false, reduceCtorEq, Option.some.injEq, false_iff, not_and]
      rintro rfl
      exact harity

/-- A call looks its chain up and runs it in the store that the lookup leaves. -/
theorem invoke_succ (hg : s.functions[f]? = some g) (harity : g.arity = arguments.length)
    (depth : Nat) :
    s.invoke (depth + 1) f arguments =
      ((g.lookup (Signature.of arguments)).answer.run (Store.invoke depth) arguments
        (s.commit f (g.lookup (Signature.of arguments)))).map fun r =>
          (r.1.mapError .raised, r.2) := by
  rw [Store.invoke, find_eq_ok_iff.2 ⟨hg, harity⟩]
  simp only
  split
  · next h => rw [h]; rfl
  · next h => rw [h]; rfl

theorem deeds_succ (hg : s.functions[f]? = some g) (harity : g.arity = arguments.length)
    (depth : Nat) :
    s.deeds (depth + 1) f arguments =
      .lookup f arguments (g.lookup (Signature.of arguments)).answer ::
        (g.lookup (Signature.of arguments)).answer.deeds (Store.invoke depth) (Store.deeds depth)
          arguments (s.commit f (g.lookup (Signature.of arguments))) := by
  rw [Store.deeds, find_eq_ok_iff.2 ⟨hg, harity⟩]

theorem tell_deeds (depth f : Nat) (arguments : List A) (s : Store A T ρ R) :
    Deed.Tell s (s.deeds depth f arguments) (s.invoke depth f arguments) := by
  induction depth generalizing f arguments s with
  | zero => exact .nil none
  | succ depth ih =>
    match hfind : s.find (ε := DispatchError A T) f arguments.length with
    | .error fault =>
      rw [Store.deeds, Store.invoke, hfind]
      exact .nil (some _)
    | .ok g =>
      obtain ⟨hg, harity⟩ := find_eq_ok_iff.1 hfind
      rw [deeds_succ hg harity, invoke_succ hg harity]
      refine .cons ⟨g, hg, harity, rfl⟩ ?_ ((Chain.tell_deeds ih _ _ _).map _)
      simp [does, hg]

theorem eq_after_of_invoke {depth : Nat} {answer : Except (Fault (DispatchError A T)) R}
    {s' : Store A T ρ R} (h : s.invoke depth f arguments = some (answer, s')) :
    s' = s.after (s.deeds depth f arguments) :=
  (tell_deeds depth f arguments s).store answer s' h

end Store

end Multimethod
