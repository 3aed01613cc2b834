import Multimethod.Proofs.Hierarchy.Declarations

/-! # The outcomes of a declaration -/

namespace Multimethod.Realm

variable {r r' : Realm} {i : Nat} {name : String} {supers : List Tag} {g : Hierarchy} {s t : Tag}
  {past : List (Nat × Tag)}

def foreign? (past : List (Nat × Tag)) (i : Nat) (supers : List Tag) : Option Tag :=
  supers.find? fun s => (i, s) ∉ past

theorem foreign?_eq_none_iff : foreign? past i supers = none ↔ ∀ s ∈ supers, (i, s) ∈ past := by
  simp [foreign?]

theorem Follows.find?_not_owns (h : r.Follows past) (hi : r.hierarchy? i = some g) :
    (supers.find? fun s => !g.owns s) = foreign? past i supers := by
  rw [foreign?]
  congr 1
  funext s
  rw [Bool.eq_iff_iff, decide_eq_true_iff, Bool.not_eq_true', ← h.owns_iff hi, Bool.not_eq_true]

theorem Follows.define_cases (h : r.Follows past) (hi : r.hierarchy? i = some g) (name : String)
    (supers : List Tag) :
    ((∃ t, (i, t) ∈ past ∧ t.name = name) ∧
      r.define i name supers = some (.error (.duplicate name))) ∨
    ((¬ ∃ t, (i, t) ∈ past ∧ t.name = name) ∧ ∃ s, foreign? past i supers = some s ∧
      r.define i name supers = some (.error (.foreign name s.name))) ∨
    ((¬ ∃ t, (i, t) ∈ past ∧ t.name = name) ∧ foreign? past i supers = none ∧
      ∃ tag r', r.define i name supers = some (.ok (tag, r'))) := by
  rw [← h.lookup_eq_none_iff hi, ← h.find?_not_owns hi, define, hi, Option.map_some,
    Hierarchy.define]
  cases hlookup : g.lookup name with
  | some t =>
    refine Or.inl ⟨?_, rfl⟩
    by_contra hfree
    simp [(h.lookup_eq_none_iff hi).2 hfree] at hlookup
  | none =>
    cases supers.find? fun s => !g.owns s with
    | some s => exact Or.inr (Or.inl ⟨rfl, s, rfl, rfl⟩)
    | none => exact Or.inr (Or.inr ⟨rfl, rfl, _, _, rfl⟩)

theorem Follows.define_eq_duplicate_iff (h : r.Follows past) (hi : r.hierarchy? i = some g) :
    r.define i name supers = some (.error (.duplicate name)) ↔
      ∃ t, (i, t) ∈ past ∧ t.name = name := by
  rcases h.define_cases hi name supers with ⟨htaken, ho⟩ | ⟨hfree, s, -, ho⟩ | ⟨hfree, -, _, _, ho⟩
  · exact iff_of_true ho htaken
  · exact iff_of_false (by simp [ho]) hfree
  · exact iff_of_false (by simp [ho]) hfree

theorem Follows.define_eq_foreign_iff (h : r.Follows past) (hi : r.hierarchy? i = some g)
    {supertype : String} :
    r.define i name supers = some (.error (.foreign name supertype)) ↔
      (¬ ∃ t, (i, t) ∈ past ∧ t.name = name) ∧
        ∃ s, foreign? past i supers = some s ∧ s.name = supertype := by
  rcases h.define_cases hi name supers with ⟨htaken, ho⟩ | ⟨hfree, s, hs, ho⟩ |
    ⟨-, hnone, _, _, ho⟩
  · exact iff_of_false (by simp [ho]) fun hfree => hfree.1 htaken
  · rw [ho, hs, and_iff_right hfree]
    simp
  · exact iff_of_false (by simp [ho]) (by simp [hnone])

theorem Follows.exists_define_eq_ok_iff (h : r.Follows past) (hi : r.hierarchy? i = some g) :
    (∃ tag r', r.define i name supers = some (.ok (tag, r'))) ↔
      (¬ ∃ t, (i, t) ∈ past ∧ t.name = name) ∧ ∀ s ∈ supers, (i, s) ∈ past := by
  rw [← foreign?_eq_none_iff]
  rcases h.define_cases hi name supers with ⟨htaken, ho⟩ | ⟨-, s, hs, ho⟩ | ⟨hfree, hnone, hok⟩
  · exact iff_of_false (by simp [ho]) fun hfree => hfree.1 htaken
  · exact iff_of_false (by simp [ho]) (by simp [hs])
  · exact iff_of_true hok ⟨hfree, hnone⟩

theorem Follows.error_cases (h : r.Follows past) (hi : r.hierarchy? i = some g)
    {e : DefinitionError} (he : r.define i name supers = some (.error e)) :
    e = .duplicate name ∨ ∃ supertype, e = .foreign name supertype := by
  rcases h.define_cases hi name supers with ⟨-, ho⟩ | ⟨-, s, -, ho⟩ | ⟨-, -, _, _, ho⟩
  · exact Or.inl (by simpa [ho] using he.symm)
  · exact Or.inr ⟨s.name, by simpa [ho] using he.symm⟩
  · simp [ho] at he

theorem declare_eq_self {e : DefinitionError} (he : r.define i name supers = some (.error e)) :
    r.declare i name supers = r := by
  rw [declare, he]

theorem Follows.lookup_declared (h : r.Follows past) (hi : r.hierarchy? i = some g)
    (hdefine : r.define i name supers = some (.ok (t, r'))) :
    ∃ g', r'.hierarchy? i = some g' ∧ g'.root = g.root ∧ g'.types = g.types ++ [t] ∧
      (∀ n s, g'.lookup n = some s ↔ g.lookup n = some s ∨ n = name ∧ s = t) ∧
      ∀ j, j ≠ i → r'.hierarchy? j = r.hierarchy? j := by
  have hformed' := (h.declared hdefine).reachable.formed
  obtain ⟨g₀, hi₀, -, -, htag, rfl⟩ := define_eq_ok_iff.1 hdefine
  obtain rfl : g₀ = g := Option.some.inj (hi₀.symm.trans hi)
  have hlt : i < r.hierarchies.length := (List.getElem?_eq_some_iff.1 hi).1
  have hg' : (r.hierarchies.set i { g₀ with types := g₀.types ++ [t] })[i]? = some _ :=
    List.getElem?_set_self hlt
  have hnames := (h.reachable.formed g₀ (List.mem_of_getElem? hi)).names
  have hnames' := (hformed' _ (List.mem_of_getElem? hg')).names
  have hname : t.name = name := htag ▸ rfl
  refine ⟨_, hg', rfl, rfl, fun n s => ?_, fun j hj => List.getElem?_set_ne hj.symm⟩
  rw [Hierarchy.lookup_eq_some_iff hnames', Hierarchy.lookup_eq_some_iff hnames, List.mem_append,
    List.mem_singleton, or_and_right]
  refine or_congr_right ⟨?_, ?_⟩
  · rintro ⟨rfl, hn⟩
    exact ⟨hn.symm.trans hname, rfl⟩
  · rintro ⟨rfl, rfl⟩
    exact ⟨rfl, hname⟩

/-- A declaration is refused as a duplicate, else as foreign, and else accepted. A refused one
changes nothing, and an accepted one adds its type behind the others. -/
theorem define_outcomes (h : r.Follows past) (hi : r.hierarchy? i = some g) (name : String)
    (supers : List Tag) :
    let taken := ∃ t, (i, t) ∈ past ∧ t.name = name
    let outcome := r.define i name supers
    (g.types = declaredBy past i ∧ ∀ j s k t, (j, s) ∈ past → (k, t) ∈ past →
      s.serial = t.serial → j = k ∧ s = t) ∧
    (outcome = some (.error (.duplicate name)) ↔ taken) ∧
    (∀ supertype, outcome = some (.error (.foreign name supertype)) ↔
      ¬ taken ∧ ∃ s, foreign? past i supers = some s ∧ s.name = supertype) ∧
    ((∃ tag r', outcome = some (.ok (tag, r'))) ↔ ¬ taken ∧ ∀ s ∈ supers, (i, s) ∈ past) ∧
    (∀ e, outcome = some (.error e) →
      (e = .duplicate name ∨ ∃ supertype, e = .foreign name supertype) ∧
      r.declare i name supers = r) ∧
    ∀ tag r', outcome = some (.ok (tag, r')) →
      r.declare i name supers = r' ∧ r'.Follows (past ++ [(i, tag)]) ∧ tag.name = name ∧
      tag.supertypes = (if supers = [] then g.root.toList else supers).map (·.toTagRef) ∧
      ∃ g', r'.hierarchy? i = some g' ∧ g'.root = g.root ∧ g'.types = g.types ++ [tag] ∧
        (∀ n t, g'.lookup n = some t ↔ g.lookup n = some t ∨ n = name ∧ t = tag) ∧
        ∀ j, j ≠ i → r'.hierarchy? j = r.hierarchy? j := by
  intro taken outcome
  refine ⟨⟨h.holds.types i g hi, fun _ _ _ _ => h.eq_of_serial_eq⟩, h.define_eq_duplicate_iff hi,
    fun _ => h.define_eq_foreign_iff hi, h.exists_define_eq_ok_iff hi,
    fun e he => ⟨h.error_cases hi he, declare_eq_self he⟩, fun tag r' hdefine => ?_⟩
  obtain ⟨g₀, hi₀, -, -, htag, -⟩ := define_eq_ok_iff.1 hdefine
  obtain rfl : g₀ = g := Option.some.inj (hi₀.symm.trans hi)
  refine ⟨declare_eq hdefine, h.declared hdefine, htag ▸ rfl, ?_, h.lookup_declared hi hdefine⟩
  rw [htag]
  cases supers <;> rfl

theorem define_outcomes_namesakes :
    let outcome := Namesakes.realm.define 0
    Namesakes.realm.Follows Namesakes.past ∧
    outcome "Word" [Namesakes.left, Namesakes.strangerLeft, Namesakes.stranger] =
      some (.error (.foreign "Word" "Left")) ∧
    outcome "Left" [Namesakes.stranger] = some (.error (.duplicate "Left")) ∧
    Namesakes.realm.declare 0 "Left" [Namesakes.stranger] = Namesakes.realm ∧
    ∃ word r', outcome "Word" [] = some (.ok (word, r')) ∧
      word.supertypes = [Namesakes.object.toTagRef] ∧
      r'.Follows (Namesakes.past ++ [(0, word)]) := by
  intro outcome
  have hfree : ¬ ∃ t, (0, t) ∈ Namesakes.past ∧ t.name = "Word" := by
    rintro ⟨t, ht, hname⟩
    have hnames : ∀ d ∈ Namesakes.past, d.2.name ≠ "Word" := by decide
    exact hnames _ ht hname
  have hword := define_outcomes Namesakes.follows (i := 0) rfl "Word"
  have hleft := define_outcomes Namesakes.follows (i := 0) rfl "Left" [Namesakes.stranger]
  have hduplicate := hleft.2.1.2 ⟨Namesakes.left, by decide, rfl⟩
  obtain ⟨word, r', hok⟩ := (hword []).2.2.2.1.2 ⟨hfree, List.forall_mem_nil _⟩
  obtain ⟨-, hfollows, -, hsupertypes, -⟩ := (hword []).2.2.2.2.2 word r' hok
  refine ⟨Namesakes.follows, ?_, hduplicate, (hleft.2.2.2.2.1 _ hduplicate).2, word, r', hok,
    hsupertypes, hfollows⟩
  exact ((hword _).2.2.1 "Left").2 ⟨hfree, Namesakes.strangerLeft, by decide +kernel, rfl⟩

end Multimethod.Realm
