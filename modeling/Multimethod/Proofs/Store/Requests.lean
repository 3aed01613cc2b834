import Multimethod.Proofs.Store.Deeds

/-! # What a program asks of its store -/

namespace Multimethod

inductive Request (A T ρ R : Type) where
  /-- Changes what the bodies can ask for. -/
  | surround (scope : ρ)
  | create (name : String) (arity : Nat) (config : Config)
  | register (f : Nat) (m : Method T (Body A T ρ R))
  | invoke (f : Nat) (arguments : List A)
  | applicable (f : Nat) (types : List T)
  | inspect (f : Nat)

inductive Response (A T ρ R : Type) where
  | surrounded
  | created (f : Nat)
  | registered (outcome : Except (Fault (RegistrationError T)) Unit)
  /-- There is no answer if calls are nested too deeply. -/
  | answered (outcome : Option (Except (Fault (DispatchError A T)) R))
  | layers (signatures : Except (Fault Empty) (List (List (Signature T))))
  | inspected (function : Option (GenericFunction T (Body A T ρ R)))

namespace Store

variable {A T ρ R : Type} [DecidableEq T] [Descriptor T] [Typed A T]

/-- Serves a request, with calls nested at most `depth` deep. A call that nests deeper leaves the
store as it was. -/
def serve (depth : Nat) (s : Store A T ρ R) : Request A T ρ R → Response A T ρ R × Store A T ρ R
  | .surround scope => (.surrounded, { s with scope })
  | .create name arity config =>
    let (f, s) := s.add { name, arity, config }
    (.created f, s)
  | .register f m =>
    let (outcome, s) := s.register f m
    (.registered outcome, s)
  | .invoke f arguments =>
    match s.invoke depth f arguments with
    | none => (.answered none, s)
    | some (outcome, s) => (.answered (some outcome), s)
  | .applicable f types =>
    (.layers ((s.find f types.length).map (·.applicable ⟨types⟩)), s)
  | .inspect f => (.inspected s.functions[f]?, s)

/-- Serves all requests in turn. With each response stands what was logged so far. -/
def serveAll (depth : Nat) :
    Store A T ρ R → List (Request A T ρ R) → List (Response A T ρ R × Array String) × Store A T ρ R
  | s, [] => ([], s)
  | s, request :: rest =>
    let (response, s) := s.serve depth request
    let (responses, s') := s.serveAll depth rest
    ((response, s.log) :: responses, s')

theorem serveAll_append (depth : Nat) (s : Store A T ρ R) (p q : List (Request A T ρ R)) :
    s.serveAll depth (p ++ q) =
      ((s.serveAll depth p).1 ++ ((s.serveAll depth p).2.serveAll depth q).1,
        ((s.serveAll depth p).2.serveAll depth q).2) := by
  induction p generalizing s with
  | nil => rfl
  | cons request rest ih => simp only [List.cons_append, serveAll, ih]

/-- The stores that a program can come to, from one without functions: between two requests, in the
middle of a call, and with the records of what happened taken out. -/
inductive Reachable : Store A T ρ R → Prop where
  | start (scope : ρ) : Reachable { scope }
  | serve {s : Store A T ρ R} (h : Reachable s) (depth : Nat) (request : Request A T ρ R) :
    Reachable (s.serve depth request).2
  | during {s : Store A T ρ R} (h : Reachable s) {depth f : Nat} {arguments : List A}
    {done rest : List (Deed A T ρ R)} (hdeeds : s.deeds depth f arguments = done ++ rest) :
    Reachable (s.after done)
  | recorded {s : Store A T ρ R} (h : Reachable s) (log : Array String)
    (events : Array (Nat × Event T)) : Reachable { s with log, events }

theorem Reachable.serveAll {s : Store A T ρ R} (h : s.Reachable) (depth : Nat)
    (requests : List (Request A T ρ R)) : (s.serveAll depth requests).2.Reachable := by
  induction requests generalizing s with
  | nil => exact h
  | cons request rest ih => exact ih (h.serve depth request)

/-! ## What all requests keep -/

/-- What a store keeps when one of its functions takes a step or a new one joins them, and what does
not hang on the rest of it. -/
structure Kept (P : Store A T ρ R → Prop) : Prop where
  aside : ∀ s t : Store A T ρ R, t.functions = s.functions → t.events = s.events → P s → P t
  create : ∀ (s : Store A T ρ R) (name : String) (arity : Nat) (config : Config), P s →
    P (s.add { name, arity, config }).2
  register : ∀ (s : Store A T ρ R) (f : Nat) (g : GenericFunction T (Body A T ρ R))
    (m : Method T (Body A T ρ R)), s.functions[f]? = some g → P s → P (s.commit f (g.register m))
  lookup : ∀ (s : Store A T ρ R) (f : Nat) (g : GenericFunction T (Body A T ρ R))
    (concrete : Signature T), s.functions[f]? = some g → P s → P (s.commit f (g.lookup concrete))

namespace Kept

variable {P : Store A T ρ R → Prop} {s : Store A T ρ R}

omit [Typed A T] in
theorem of_register (hP : Kept P) (h : P s) (f : Nat) (m : Method T (Body A T ρ R)) :
    P (s.register f m).2 := by
  unfold Store.register
  split
  · exact h
  · next g hfind => exact hP.register s f g m (find_eq_ok_iff.1 hfind).1 h

theorem does (hP : Kept P) (h : P s) (deed : Deed A T ρ R) : P (s.does deed) := by
  cases deed with
  | log line => exact hP.aside s _ rfl rfl h
  | register f m => exact hP.of_register h f m
  | lookup f arguments chain =>
    cases hg : s.functions[f]? with
    | none => simpa [Store.does, hg] using h
    | some g =>
      simp only [Store.does, hg, Option.elim_some]
      exact hP.lookup s f g _ hg h
  | start m => exact h

theorem after (hP : Kept P) (h : P s) (deeds : List (Deed A T ρ R)) : P (s.after deeds) :=
  after_invariant (P := P) (fun _ deed hs => hP.does hs deed) h deeds

theorem serve (hP : Kept P) (h : P s) (depth : Nat) (request : Request A T ρ R) :
    P (s.serve depth request).2 := by
  cases request with
  | surround scope => exact hP.aside s _ rfl rfl h
  | create name arity config => exact hP.create s name arity config h
  | register f m => exact hP.of_register h f m
  | invoke f arguments =>
    unfold Store.serve
    match hanswer : s.invoke depth f arguments with
    | none => simpa [hanswer] using h
    | some (answer, s') =>
      simp only [hanswer]
      rw [eq_after_of_invoke hanswer]
      exact hP.after h _
  | applicable f types => exact h
  | inspect f => exact h

end Kept

/-! ## What each function keeps -/

section

variable {Q : GenericFunction T (Body A T ρ R) → Prop} {s : Store A T ρ R}
  (hcreate : ∀ name arity config, Q { name, arity, config })
  (hregister : ∀ g m, Q g → Q (g.register m).function)
  (hlookup : ∀ g concrete, Q g → Q (g.lookup concrete).function)

omit [DecidableEq T] [Descriptor T] [Typed A T] in
theorem forall_functions_commit (h : ∀ g ∈ s.functions, Q g) (f : Nat) {α : Type}
    {step : Step T (Body A T ρ R) α} (hstep : Q step.function) :
    ∀ g ∈ (s.commit f step).functions, Q g := by
  intro g hg
  rcases List.mem_or_eq_of_mem_set hg with hold | rfl
  · exact h g hold
  · exact hstep

include hcreate hregister hlookup

omit [Typed A T] in
theorem kept_forall_functions : Kept fun s : Store A T ρ R => ∀ g ∈ s.functions, Q g where
  aside s t hfunctions _ h := by rwa [hfunctions]
  create s name arity config h :=
    List.forall_mem_append.2 ⟨h, List.forall_mem_singleton.2 (hcreate name arity config)⟩
  register s f g m hg h :=
    forall_functions_commit h f (hregister g m (h g (List.mem_of_getElem? hg)))
  lookup s f g concrete hg h :=
    forall_functions_commit h f (hlookup g concrete (h g (List.mem_of_getElem? hg)))

theorem Reachable.forall_functions (h : s.Reachable) : ∀ g ∈ s.functions, Q g := by
  have hkept : Kept fun s : Store A T ρ R => ∀ g ∈ s.functions, Q g :=
    kept_forall_functions hcreate hregister hlookup
  induction h with
  | start scope => exact List.forall_mem_nil _
  | serve _ depth request ih => exact hkept.serve ih depth request
  | during _ _ ih => exact hkept.after ih _
  | recorded _ _ _ ih => exact ih

end

end Store

end Multimethod
