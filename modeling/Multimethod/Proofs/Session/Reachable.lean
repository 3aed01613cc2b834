import Multimethod.Proofs.Store.Requests
import Multimethod.Session.Command

/-! # Sessions only make requests -/

namespace Multimethod.Session

variable {s : Session}

/-! ## Requests of a session -/

theorem reachable_surround (h : s.Reachable) (scope : Scope) :
    Store.Reachable ({ s with scope } : Session) :=
  h.serve 0 (.surround scope)

theorem reachable_register (h : s.Reachable) (f : Nat)
    (m : Method Tag (Body Argument Tag Scope String)) : (s.register f m).2.Reachable :=
  h.serve 0 (.register f m)

theorem reachable_callHandle (h : s.Reachable) (f : Nat) (arguments : List Argument) :
    (s.callHandle f arguments).2.Reachable := by
  have hserve := h.serve depthLimit (.invoke f arguments)
  simp only [Store.serve] at hserve
  unfold callHandle
  generalize s.invoke depthLimit f arguments = result at hserve ⊢
  rcases result with _ | ⟨answer, s'⟩
  · exact h
  · exact hserve

theorem reachable_foldl {γ δ : Type} {step : γ × Session → δ → γ × Session}
    (hstep : ∀ x d, x.2.Reachable → (step x d).2.Reachable) {x : γ × Session} (h : x.2.Reachable)
    (items : List δ) : (items.foldl step x).2.Reachable :=
  List.foldlRecOn items step (motive := fun x => x.2.Reachable) h fun x hx d _ => hstep x d hx

theorem reachable_runCalls (h : s.Reachable) (f : Nat) (calls : List (List Argument)) :
    (s.runCalls f calls).2.Reachable := by
  unfold runCalls
  apply reachable_foldl
  · intro x arguments hx
    exact reachable_callHandle hx f arguments
  · exact h

/-! ## Steps that may fail -/

def Keeps {α : Type} (outcome : Answer (α × Session)) : Prop :=
  ∀ a s', outcome = .ok (a, s') → s'.Reachable

theorem keeps_bind {α γ : Type} {x : Answer γ} {next : γ → Answer (α × Session)}
    (h : ∀ c, Keeps (next c)) : Keeps (x >>= next) := by
  intro a s' heq
  cases x with
  | error e => cases heq
  | ok c => exact h c a s' heq

theorem keeps_pure {α : Type} {a : α} (h : s.Reachable) :
    Keeps (pure (a, s) : Answer (α × Session)) := by
  rintro _ _ ⟨⟩
  exact h

theorem reachable_changed {α : Type} (h : s.Reachable) (reply : α → Reply)
    {outcome : Answer (α × Session)} (houtcome : Keeps outcome) :
    (s.changed reply outcome).2.Reachable := by
  rcases outcome with e | ⟨a, s'⟩
  · exact h
  · exact houtcome a s' rfl

theorem keeps_define (h : s.Reachable) (id name : String) (supers : List String) :
    Keeps (s.define id name supers) :=
  keeps_bind fun _ => keeps_bind fun _ => keeps_bind fun _ => keeps_bind fun _ =>
    keeps_pure (reachable_surround h _)

theorem keeps_nameType (h : s.Reachable) (name ref : String) : Keeps (s.nameType name ref) :=
  keeps_bind fun _ => keeps_pure (reachable_surround h _)

theorem keeps_createFunction (h : s.Reachable) (id name : String) (arity : Nat)
    (document : Option String) (withoutCache : Bool) :
    Keeps (s.createFunction id name arity document withoutCache) := by
  refine keeps_bind fun config => ?_
  by_cases harity : largestArity < arity
  · simp only [harity, if_true]
    rintro _ _ ⟨⟩
  · simp only [harity, if_false]
    exact keeps_pure (reachable_surround (h.serve 0 (.create name arity _)) _)

theorem reachable_addMethod (h : s.Reachable) (id : String) (kind : Kind) (types : List String)
    (script : Script) : (s.addMethod id kind types script).2.Reachable := by
  unfold addMethod
  split
  · exact h
  · next f signature _ =>
    have hregister := reachable_register h f ⟨signature, kind, script.body kind⟩
    simp only
    split <;> exact hregister

theorem reachable_call (h : s.Reachable) (id : String) (arguments : List (String × Payload)) :
    (s.call id arguments).2.Reachable := by
  unfold call
  split
  · exact h
  · exact reachable_callHandle h _ _

theorem reachable_callMany (h : s.Reachable) (id : String) (callers rounds : Nat)
    (calls : List (List (String × Payload))) :
    (s.callMany id callers rounds calls).2.Reachable := by
  unfold callMany
  simp only
  split
  · exact h
  · exact (reachable_runCalls h _ _).recorded _ _

theorem reachable_addMany (h : s.Reachable) (id : String) (callers : Nat) (kind : Kind)
    (types : List String) (script : Script) :
    (s.addMany id callers kind types script).2.Reachable := by
  unfold addMany
  split
  · exact h
  · next f signature _ =>
    refine Store.Reachable.recorded (s := (List.foldl _ (0, s) _).2) ?_ _ _
    apply reachable_foldl
    · intro x _ hx
      exact reachable_register hx f ⟨signature, kind, script.body kind⟩
    · exact h

/-! ## Steps -/

theorem reachable_start : Store.Reachable start := .start _

theorem reachable_perform (h : s.Reachable) (c : Command) : (s.perform c).2.Reachable := by
  cases c with
  | createHierarchy id root => exact reachable_surround h _
  | define hierarchy name supers => exact reachable_changed h _ (keeps_define h hierarchy name supers)
  | nameType name type => exact reachable_changed h _ (keeps_nameType h name type)
  | createFunction id name arity document withoutCache =>
    exact reachable_changed h _ (keeps_createFunction h id name arity document withoutCache)
  | add f kind types body => exact reachable_addMethod h f kind types body
  | call f arguments => exact reachable_call h f arguments
  | callMany f callers rounds calls => exact reachable_callMany h f callers rounds calls
  | addMany f callers kind types body => exact reachable_addMany h f callers kind types body
  | _ => exact h

theorem reachable_steps (commands : List Command) :
    Store.Reachable (commands.foldl (fun s c => (Session.step s c).2) start) := by
  suffices ∀ s : Session, s.Reachable →
      Store.Reachable (commands.foldl (fun s c => (Session.step s c).2) s) from this _ reachable_start
  induction commands with
  | nil => exact fun s h => h
  | cons c rest ih => exact fun s h => ih _ ((reachable_perform h c).recorded #[] #[])

end Multimethod.Session
