import Multimethod.Proofs.Function.Bodies
import Multimethod.Proofs.Store.Deeds

/-!
# Bodies that announce themselves

Let every body log one line when it begins, and none later. The log is then the list of the methods whose
bodies began.
-/

namespace Multimethod

variable {A T ρ R : Type}

/-! ## Announcing -/

section

variable (mark : Method T (Body A T ρ R) → String)

/-- The same effects without a line of its own. The methods that it adds announce themselves. -/
def Action.announcing : {k : Kind} → Action A T ρ R k → Action A T ρ R k
  | _, .done result => .done result
  | _, .log _ rest => rest.announcing
  | _, .ask use => .ask fun scope => (use scope).announcing
  | _, .size f use => .size f fun n => (use n).announcing
  | _, .cached f use => .cached f fun n => (use n).announcing
  | _, .invoke f arguments use => .invoke f arguments fun answer => (use answer).announcing
  | _, .register f signature kind body use =>
    .register f signature kind
      (fun arguments => .log (mark ⟨signature, kind, body⟩) (body arguments).announcing)
      fun answer => (use answer).announcing
  | _, .next use => .next fun answer => (use answer).announcing
  | _, .describe use => .describe fun outline => (use outline).announcing
  | _, .fail error => .fail error

def Method.announcing (m : Method T (Body A T ρ R)) : Body A T ρ R m.kind :=
  fun arguments => .log (mark m) ((m.body arguments).announcing mark)

def Store.announcing (log : Array String) (s : Store A T ρ R) : Store A T ρ R :=
  { s with functions := s.functions.map (·.withBodies (Method.announcing mark)), log }

def Deed.marks (deeds : List (Deed A T ρ R)) : Array String := ((started deeds).map mark).toArray

theorem Deed.marks_append (p q : List (Deed A T ρ R)) :
    marks mark (p ++ q) = marks mark p ++ marks mark q := by
  simp [marks, started]

theorem Deed.push_append_marks (log : Array String) (m : Method T (Body A T ρ R))
    (deeds : List (Deed A T ρ R)) :
    log.push (mark m) ++ marks mark deeds = log ++ marks mark (.start m :: deeds) := by
  simp [marks, started, started?]

/-- Where all methods announce themselves, the second run is the first one, and logs the marks of the
methods that begin according to the deeds of the first one. -/
def Announces {α : Type} (deeds : Store A T ρ R → List (Deed A T ρ R)) (run told : Run A T ρ R α) :
    Prop :=
  ∀ s log, told (s.announcing mark log) =
    (run s).map fun r => (r.1, r.2.announcing mark (log ++ Deed.marks mark (deeds s)))

end

/-! ## Single steps -/

namespace Store

variable {mark : Method T (Body A T ρ R) → String} {log : Array String} {s : Store A T ρ R}

theorem functions_announcing (f : Nat) : (s.announcing mark log).functions[f]? =
    s.functions[f]?.map (·.withBodies (Method.announcing mark)) := List.getElem?_map

theorem size_announcing (f : Nat) : (s.announcing mark log).size f = s.size f := by
  rw [size, size, functions_announcing]
  cases s.functions[f]? with
  | none => rfl
  | some g => exact List.length_map _

theorem cached_announcing (f : Nat) : (s.announcing mark log).cached f = s.cached f := by
  rw [cached, cached, functions_announcing]
  cases s.functions[f]? with
  | none => rfl
  | some g => exact List.length_map _

theorem find_announcing {ε : Type} (f arity : Nat) : (s.announcing mark log).find (ε := ε) f arity =
    (s.find f arity).map (·.withBodies (Method.announcing mark)) := by
  rw [find, find, functions_announcing]
  cases s.functions[f]? with
  | none => rfl
  | some g =>
    simp only [Option.map_some]
    rw [apply_ite (Except.map _)]
    rfl

theorem commit_announcing {α δ : Type} (f : Nat) (step : Step T (Body A T ρ R) α) (answer : α → δ) :
    (s.announcing mark log).commit f (step.withBodies (Method.announcing mark) answer) =
      (s.commit f step).announcing mark log := by
  simp only [commit, announcing, Step.withBodies, List.map_set]

theorem register_announcing [DecidableEq T] (f : Nat) (m : Method T (Body A T ρ R)) :
    (s.announcing mark log).register f (m.withBody (Method.announcing mark)) =
      Prod.map id (announcing mark log) (s.register f m) := by
  have harity : (m.withBody (Method.announcing mark)).signature.arity = m.signature.arity := rfl
  rw [register, register, find_announcing, harity]
  cases s.find f m.signature.arity with
  | error fault => rfl
  | ok g =>
    simp only [Except.map, GenericFunction.register_withBody, commit_announcing]
    rfl

end Store

/-! ## Runs -/

section

variable [DecidableEq T] {mark : Method T (Body A T ρ R) → String}
  {call told : Nat → List A → Run A T ρ R (Except (Fault (DispatchError A T)) R)}
  {during : Nat → List A → Store A T ρ R → List (Deed A T ρ R)}
  (hcall : ∀ f arguments, Announces mark (during f arguments) (call f arguments) (told f arguments))

include hcall

theorem Action.announces {k : Kind} (a : Action A T ρ R k) {below below' : k = .inner → Below A T ρ R}
    {onward : k = .inner → Store A T ρ R → List (Deed A T ρ R)}
    (hbelow : ∀ h, Announces mark (onward h) (below h).run (below' h).run)
    (houtline : ∀ h, (below' h).outline = (below h).outline) :
    Announces mark (a.deeds call during below onward) (a.run call below)
      ((a.announcing mark).run told below') := by
  intro s log
  induction a generalizing s log with
  | done result => simp [announcing, run, deeds, Deed.marks, Deed.started]
  | log line rest ih => exact ih hbelow houtline { s with log := s.log.push line } log
  | ask use ih => exact ih _ hbelow houtline s log
  | size f use ih =>
    rw [announcing, run, Store.size_announcing]
    exact ih _ hbelow houtline s log
  | cached f use ih =>
    rw [announcing, run, Store.cached_announcing]
    exact ih _ hbelow houtline s log
  | invoke f arguments use ih =>
    -- The rest of the body goes on with a log that has the marks of the call already.
    simp only [announcing, run, deeds, hcall f arguments s log, Deed.marks_append]
    rcases call f arguments s with _ | ⟨answer, s'⟩
    · rfl
    · simp only [Option.map_some, ← Array.append_assoc]
      exact ih answer hbelow houtline s' _
  | register f signature kind body use ihbody ih =>
    -- The method joins with the body that announces it, as if it had been there from the start.
    have hregister : (s.announcing mark log).register f ⟨signature, kind, fun arguments =>
        .log (mark ⟨signature, kind, body⟩) ((body arguments).announcing mark)⟩ = _ :=
      Store.register_announcing f ⟨signature, kind, body⟩
    simp only [announcing, run]
    rw [hregister]
    exact ih _ hbelow houtline (s.register f ⟨signature, kind, body⟩).2 log
  | next use ih =>
    simp only [announcing, run, deeds, hbelow rfl s log, Deed.marks_append]
    rcases (below rfl).run s with _ | ⟨answer, s'⟩
    · rfl
    · simp only [Option.map_some, ← Array.append_assoc]
      exact ih answer hbelow houtline s' _
  | describe use ih =>
    rw [announcing, run, houtline]
    exact ih _ hbelow houtline s log
  | fail error => simp [announcing, run, deeds, Deed.marks, Deed.started]

theorem Method.announces (m : Method T (Body A T ρ R)) (arguments : List A)
    {below below' : m.kind = .inner → Below A T ρ R}
    {onward : m.kind = .inner → Store A T ρ R → List (Deed A T ρ R)}
    (hbelow : ∀ h, Announces mark (onward h) (below h).run (below' h).run)
    (houtline : ∀ h, (below' h).outline = (below h).outline) :
    Announces mark (fun s => .start m :: (m.body arguments).deeds call during below onward s)
      ((m.body arguments).run call below) ((m.announcing mark arguments).run told below') := by
  intro s log
  have hbody := (m.body arguments).announces hcall hbelow houtline s (log.push (mark m))
  rw [Deed.push_append_marks] at hbody
  exact hbody

theorem Chain.announces (arguments : List A) (chain : Chain T (Body A T ρ R)) :
    Announces mark (chain.deeds call during arguments) (chain.run call arguments)
      ((chain.withBodies (Method.announcing mark)).run told arguments) := by
  induction chain with
  | leaf signature body => exact Method.announces hcall ⟨signature, .leaf, body⟩ arguments nofun nofun
  | inner signature body next ih =>
    exact Method.announces hcall ⟨signature, .inner, body⟩ arguments (fun _ => ih)
      fun _ => next.outline_withBodies _
  | stop cause origin =>
    intro s log
    simp [withBodies, run, deeds, Deed.marks, Deed.started]

end

variable [DecidableEq T] [Descriptor T] [Typed A T]

namespace Store

theorem announces (mark : Method T (Body A T ρ R) → String) (depth f : Nat)
    (arguments : List A) :
    Announces mark (deeds depth f arguments) (invoke depth f arguments) (invoke depth f arguments) := by
  induction depth generalizing f arguments with
  | zero => exact fun s log => rfl
  | succ depth ih =>
    intro s log
    rw [invoke, find_announcing, invoke, deeds]
    cases s.find (ε := DispatchError A T) f arguments.length with
    | error fault => simp [Except.map, Deed.marks, Deed.started]
    | ok g =>
      simp only [Except.map, GenericFunction.lookup_withBodies, commit_announcing]
      have hchain := Chain.announces (ih · ·) arguments (g.lookup (Signature.of arguments)).answer
        (s.commit f (g.lookup (Signature.of arguments))) log
      simp only [Step.withBodies]
      rw [hchain]
      cases Chain.run (invoke depth) arguments (g.lookup (Signature.of arguments)).answer
        (s.commit f (g.lookup (Signature.of arguments))) <;> rfl

/-- Which bodies a call begins, and in which order, is what the run logs once they announce themselves. -/
theorem invoke_announcing (mark : Method T (Body A T ρ R) → String) {depth f : Nat} {arguments : List A}
    {s s' : Store A T ρ R} {answer : Except (Fault (DispatchError A T)) R}
    (h : s.invoke depth f arguments = some (answer, s')) :
    (s.announcing mark #[]).invoke depth f arguments = some (answer,
      s'.announcing mark ((Deed.started (s.deeds depth f arguments)).map mark).toArray) := by
  rw [announces mark depth f arguments s #[], h, Array.empty_append]
  rfl

end Store

end Multimethod
