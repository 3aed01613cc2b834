import Multimethod.Proofs.Process.Basic

/-! # Readings do not depend on serial numbers -/

namespace Multimethod

variable {β : Kind → Type}

theorem Reading.texts_rename (σ : Nat → Nat) (reading : Reading β) :
    (reading.rename σ).texts = reading.texts := by
  have htag : ∀ t : Tag, toString (t.rename σ) = toString t := Tag.toString_rename
  cases reading with
  | nothing | verdict | function | stats => rfl
  | type found => cases found <;> rfl
  | defined result => cases result <;> rfl
  | registered result event =>
    cases result with
    | ok => exact congrArg (fun text => [text]) (Event.text_map htag event)
    | error error =>
      simp only [rename, texts, Except.mapError, Event.text_map htag,
        RegistrationError.message_map htag]
  | layers signatures =>
    rw [rename, texts, texts, List.map_map]
    refine List.map_congr_left fun layer _ => congrArg Text.bracketed ?_
    rw [List.map_map]
    exact List.map_congr_left fun s _ => Signature.toString_map htag s
  | effective chain event =>
    rw [rename, texts, texts, Chain.text_map htag, Event.text_map htag]

theorem Reading.correspond_of_eq_map {σ τ : Nat → Nat} {readings first second : List (Reading β)}
    (hfirst : first = readings.map (·.rename σ)) (hsecond : second = readings.map (·.rename τ)) :
    Correspond σ τ first second := by
  refine ⟨readings, hfirst, hsecond, ?_⟩
  rw [hfirst, hsecond, List.map_map, List.map_map]
  refine List.map_congr_left fun reading _ => ?_
  rw [Function.comp_apply, Function.comp_apply, texts_rename, texts_rename]

theorem Comparison.holds_map {e : Tag → Tag} (he : Embeds e) (comparison : Comparison)
    (a b : Signature Tag) : comparison.holds (a.map e) (b.map e) = comparison.holds a b := by
  cases comparison with
  | accepts => exact he.accepts_map a b
  | implies => exact he.implies_map a b
  | strictlyImplies => exact he.strictlyImplies_map a b
  | equal => exact decide_eq_decide.2 (Signature.map_injective he.injective).eq_iff

theorem Comparison.verdict?_map {e : Tag → Tag} (he : Embeds e) (comparison : Comparison)
    (a b : Signature Tag) : comparison.verdict? (a.map e) (b.map e) = comparison.verdict? a b := by
  have harity : ∀ s : Signature Tag, (s.map e).arity = s.arity := fun _ => List.length_map _
  rw [verdict?, verdict?, harity, harity, holds_map he]

namespace Process

def rename (σ : Nat → Nat) (p : Process β) : Process β where
  realm := p.realm.rename σ
  functions := p.functions.map (·.map (Tag.rename σ))

/-! ## One instruction -/

section

variable {σ : Nat → Nat} (p : Process β)

theorem tag?_rename (mention : Mention) :
    (p.rename σ).tag? mention = (p.tag? mention).map (·.rename σ) := by
  have hhierarchy : (p.rename σ).realm.hierarchy? mention.hierarchy = _ :=
    Realm.hierarchy?_rename p.realm mention.hierarchy
  rw [tag?, tag?, hhierarchy]
  cases p.realm.hierarchy? mention.hierarchy with
  | none => rfl
  | some h => exact Hierarchy.lookup_rename h mention.name

theorem tags?_rename (mentions : List Mention) :
    (p.rename σ).tags? mentions = (p.tags? mentions).map (·.map (·.rename σ)) := by
  rw [tags?, tags?]
  induction mentions with
  | nil => rfl
  | cons mention rest ih =>
    rw [List.mapM_cons, List.mapM_cons, tag?_rename, ih]
    cases p.tag? mention with
    | none => rfl
    | some tag => cases rest.mapM p.tag? <;> rfl

theorem signature?_rename (types : List Mention) :
    (p.rename σ).signature? types = (p.signature? types).map (·.map (Tag.rename σ)) := by
  rw [signature?, signature?, tags?_rename, Option.map_map, Option.map_map]
  rfl

theorem functions_rename (f : Nat) :
    (p.rename σ).functions[f]? = p.functions[f]?.map (·.map (Tag.rename σ)) := List.getElem?_map

theorem use_rename (f : Nat) (types : List Mention)
    {step : GenericFunction Tag β → Signature Tag → Reading β × GenericFunction Tag β}
    (hstep : ∀ g signature, step (g.map (Tag.rename σ)) (signature.map (Tag.rename σ)) =
      Prod.map (·.rename σ) (·.map (Tag.rename σ)) (step g signature)) :
    (p.rename σ).use f types step = Prod.map (·.rename σ) (·.rename σ) (p.use f types step) := by
  rw [use, use, functions_rename, signature?_rename]
  cases p.functions[f]? with
  | none => cases p.signature? types <;> rfl
  | some g =>
    cases p.signature? types with
    | none => rfl
    | some signature =>
      have harity : (signature.map (Tag.rename σ)).arity = signature.arity := List.length_map _
      have hsame : (g.map (Tag.rename σ)).arity = g.arity := rfl
      simp only [Option.map_some, harity, hsame, hstep]
      split
      · simp only [Prod.map_apply, Prod.map_fst, Prod.map_snd, rename, List.map_set]
      · rfl

end

theorem realm_use (p : Process β) (f : Nat) (types : List Mention)
    (step : GenericFunction Tag β → Signature Tag → Reading β × GenericFunction Tag β) :
    (p.use f types step).2.realm = p.realm := by
  unfold use
  split
  · split <;> rfl
  · rfl

theorem next_execute (p : Process β) (instruction : Instruction β) :
    (p.execute instruction).2.realm.next = p.realm.next ∨
      (p.execute instruction).2.realm.next = p.realm.next + 1 := by
  cases instruction with
  | createHierarchy root =>
    cases root with
    | none => exact Or.inl rfl
    | some name => exact Or.inr rfl
  | define i name supers =>
    rw [execute]
    split
    · exact Or.inl rfl
    · exact Or.inl rfl
    · next hdefine =>
      obtain ⟨tags, -, hdefine⟩ := Option.bind_eq_some_iff.1 hdefine
      exact Or.inr (Realm.next_of_define hdefine)
  | lookup | createFunction => exact Or.inl rfl
  | isSubtypeOf | compare | stats =>
    rw [execute]
    split <;> exact Or.inl rfl
  | register | applicable | effective => exact Or.inl (congrArg Realm.next (realm_use ..))

theorem use_counting (p : Process β) (f : Nat) (types : List Mention)
    (step : GenericFunction Tag β → Signature Tag → Reading β × GenericFunction Tag β) (next : Nat) :
    (p.counting next).use f types step = Prod.map id (·.counting next) (p.use f types step) := by
  have hfunctions : (p.counting next).functions = p.functions := rfl
  have hsignature : (p.counting next).signature? types = p.signature? types := rfl
  rw [use, use, hfunctions, hsignature]
  split
  · split <;> rfl
  · rfl

theorem execute_counting {p : Process β} {instruction : Instruction β}
    (h : (p.execute instruction).2.realm.next = p.realm.next) (next : Nat) :
    (p.counting next).execute instruction =
      Prod.map id (·.counting next) (p.execute instruction) := by
  cases instruction with
  | createHierarchy root =>
    cases root with
    | none => rfl
    | some name => exact absurd h (Nat.succ_ne_self _)
  | define i name supers =>
    have htags : (p.counting next).tags? supers = p.tags? supers := rfl
    rw [execute] at h
    rw [execute, execute, htags]
    cases hsupers : p.tags? supers with
    | none => rfl
    | some tags =>
      rw [hsupers, Option.bind_some] at h
      have hfails : ∀ tag r', p.realm.define i name tags ≠ some (.ok (tag, r')) := by
        intro tag r' hdefine
        rw [hdefine] at h
        exact absurd (Realm.next_of_define hdefine ▸ h) (Nat.succ_ne_self _)
      have hdefine : (p.counting next).realm.define i name tags = p.realm.define i name tags :=
        Realm.define_counting hfails next
      rw [Option.bind_some, Option.bind_some, hdefine]
      split
      · rfl
      · rfl
      · next hdefine => exact absurd hdefine (hfails _ _)
  | lookup | createFunction => rfl
  | isSubtypeOf a b =>
    have htag : ∀ mention, (p.counting next).tag? mention = p.tag? mention := fun _ => rfl
    rw [execute, execute, htag, htag]
    split <;> rfl
  | compare comparison a b =>
    have hsignature : ∀ types, (p.counting next).signature? types = p.signature? types := fun _ => rfl
    rw [execute, execute, hsignature, hsignature]
    split <;> rfl
  | stats f =>
    have hfunctions : (p.counting next).functions = p.functions := rfl
    rw [execute, execute, hfunctions]
    split <;> rfl
  | register | applicable | effective =>
    rw [execute, execute]
    exact use_counting ..

section

variable {σ : Nat → Nat}

theorem eq_map_of_realm_eq {p : Process β} {result result' : Reading β × Process β}
    (hrealm : result.2.realm = p.realm)
    (h : result' = Prod.map (·.rename σ) (·.rename σ) result) :
    result' = Prod.map (·.rename σ)
      (fun p' => (p'.rename σ).counting (σ p.realm.next + (p'.realm.next - p.realm.next))) result := by
  obtain ⟨reading, ⟨realm, functions⟩⟩ := result
  obtain rfl : realm = p.realm := hrealm
  rw [h]
  simp [counting, rename, Realm.rename, Realm.counting]

variable (hσ : Function.Injective σ)

include hσ

theorem execute_rename (p : Process β) (instruction : Instruction β) :
    (p.rename σ).execute instruction = Prod.map (·.rename σ)
      (fun p' => (p'.rename σ).counting (σ p.realm.next + (p'.realm.next - p.realm.next)))
      (p.execute instruction) := by
  have he := Tag.embeds_rename hσ
  cases instruction with
  | createHierarchy root =>
    have hrealm : (p.rename σ).realm.create root = _ := Realm.create_rename hσ p.realm root
    have hroot : ((p.realm.create root).rename σ).hierarchies.getLast?.bind (·.root) =
        ((p.realm.create root).hierarchies.getLast?.bind (·.root)).map (·.rename σ) := by
      rw [Realm.rename, List.getLast?_map]
      cases (p.realm.create root).hierarchies.getLast? <;> rfl
    rw [execute, execute, hrealm]
    exact congrArg (fun found => (Reading.type found, _)) hroot
  | define i name supers =>
    rw [execute, execute, tags?_rename]
    cases p.tags? supers with
    | none => exact eq_map_of_realm_eq rfl rfl
    | some tags =>
      have hdefine : (p.rename σ).realm.define i name _ = _ :=
        Realm.define_rename hσ p.realm i name tags
      rw [Option.map_some, Option.bind_some, Option.bind_some, hdefine]
      rcases h : p.realm.define i name tags with _ | error | ⟨tag, realm⟩
      · exact eq_map_of_realm_eq rfl rfl
      · exact eq_map_of_realm_eq rfl rfl
      · -- An accepted declaration takes one serial number in either process.
        simp only [Option.map_some, Except.map, Prod.map_apply, Realm.next_of_define h,
          Nat.add_sub_cancel_left]
        rfl
  | lookup type =>
    refine eq_map_of_realm_eq rfl ?_
    rw [execute, execute, tag?_rename]
    rfl
  | isSubtypeOf a b =>
    rw [execute, execute, tag?_rename, tag?_rename]
    cases p.tag? a with
    | none => cases p.tag? b <;> exact eq_map_of_realm_eq rfl rfl
    | some a =>
      cases p.tag? b with
      | none => exact eq_map_of_realm_eq rfl rfl
      | some b =>
        refine eq_map_of_realm_eq rfl ?_
        exact congrArg (fun verdict => (Reading.verdict verdict, p.rename σ)) (he.accepts b a)
  | compare comparison a b =>
    rw [execute, execute, signature?_rename, signature?_rename]
    cases p.signature? a with
    | none => cases p.signature? b <;> exact eq_map_of_realm_eq rfl rfl
    | some a =>
      cases p.signature? b with
      | none => exact eq_map_of_realm_eq rfl rfl
      | some b =>
        refine eq_map_of_realm_eq rfl ?_
        rw [Option.map_some, Option.map_some]
        simp only [comparison.verdict?_map he]
        cases comparison.verdict? a b <;> rfl
  | createFunction name arity config =>
    refine eq_map_of_realm_eq rfl ?_
    simp only [execute, rename, Prod.map_apply, List.map_append]
    rfl
  | register f types kind body =>
    rw [execute, execute]
    refine eq_map_of_realm_eq (realm_use ..) (p.use_rename f types fun g signature => ?_)
    have hregister := GenericFunction.register_map he.injective g ⟨signature, kind, body⟩
    simp only [Method.map] at hregister
    rw [hregister]
    rfl
  | applicable f types =>
    rw [execute, execute]
    refine eq_map_of_realm_eq (realm_use ..) (p.use_rename f types fun g signature => ?_)
    rw [GenericFunction.applicable_map he]
    rfl
  | effective f types =>
    rw [execute, execute]
    refine eq_map_of_realm_eq (realm_use ..) (p.use_rename f types fun g signature => ?_)
    rw [GenericFunction.lookup_map he]
    rfl
  | stats f =>
    rw [execute, execute, functions_rename]
    cases p.functions[f]? <;> exact eq_map_of_realm_eq rfl rfl

theorem executeAll_rename (hsucc : ∀ k, σ (k + 1) = σ k + 1) (p : Process β)
    (program : List (Instruction β)) :
    (p.rename σ).executeAll program =
      Prod.map (·.map (·.rename σ)) (·.rename σ) (p.executeAll program) := by
  induction program generalizing p with
  | nil => rfl
  | cons instruction rest ih =>
    have hnext : σ p.realm.next + ((p.execute instruction).2.realm.next - p.realm.next) =
        σ (p.execute instruction).2.realm.next := by
      rcases p.next_execute instruction with h | h
      · rw [h, Nat.sub_self, Nat.add_zero]
      · rw [h, Nat.add_sub_cancel_left, hsucc]
    have hstep : (p.rename σ).execute instruction =
        Prod.map (·.rename σ) (·.rename σ) (p.execute instruction) := by
      rw [execute_rename hσ, Prod.map, hnext]
      rfl
    simp only [executeAll, hstep, Prod.map_fst, Prod.map_snd, ih, Prod.map_apply, List.map_cons]

end

end Process

end Multimethod
