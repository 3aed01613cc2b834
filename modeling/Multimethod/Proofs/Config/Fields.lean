import Multimethod.Config.Read
import Multimethod.Proofs.Toml.Document
import Multimethod.Proofs.Toml.Reordered

/-! # The fields of a configuration -/

namespace Multimethod

/-! ## Folds that may fail -/

section

variable {σ α ε : Type} {step : σ → α → Except ε σ}

/-- If it does not depend on the state which items fail, the first of these decides. -/
theorem foldlM_eq_error_iff {Refuses : α → ε → Prop}
    (hstep : ∀ s a e, step s a = .error e ↔ Refuses a e) (s : σ) (items : List α) (e : ε) :
    items.foldlM step s = .error e ↔ ∃ front a back, items = front ++ a :: back ∧ Refuses a e ∧
      ∀ b ∈ front, ∀ e', ¬ Refuses b e' := by
  induction items generalizing s with
  | nil => simp [pure, Except.pure]
  | cons a rest ih =>
    rw [List.foldlM_cons]
    cases h : step s a with
    | error e' =>
      -- The item itself refuses, so only an empty front has none that does.
      have ha := (hstep s a e').1 h
      constructor
      · rintro ⟨⟩
        exact ⟨[], a, rest, rfl, ha, List.forall_mem_nil _⟩
      · rintro ⟨_ | ⟨b, front⟩, a', back, hitems, hrefuses, hfront⟩
        · cases hitems
          rw [(hstep s a e).2 hrefuses] at h
          cases h
          rfl
        · cases hitems
          exact absurd ha (hfront a List.mem_cons_self e')
    | ok s' =>
      have ha : ∀ e', ¬ Refuses a e' := by
        intro e' hrefuses
        rw [(hstep s a e').2 hrefuses] at h
        cases h
      refine (ih s').trans ⟨?_, ?_⟩
      · rintro ⟨front, a', back, rfl, hrefuses, hfront⟩
        exact ⟨a :: front, a', back, rfl, hrefuses, List.forall_mem_cons.2 ⟨ha, hfront⟩⟩
      · rintro ⟨_ | ⟨b, front⟩, a', back, hitems, hrefuses, hfront⟩
        · cases hitems
          exact absurd hrefuses (ha e)
        · cases hitems
          exact ⟨front, a', back, rfl, hrefuses, (List.forall_mem_cons.1 hfront).2⟩

end

theorem Except.map_eq_error_iff {α γ ε : Type} {f : α → γ} {x : Except ε α} {e : ε} :
    x.map f = .error e ↔ x = .error e := by
  cases x <;> simp [Except.map]

theorem Except.map_eq_ok_iff {α γ ε : Type} {f : α → γ} {x : Except ε α} {c : γ} :
    x.map f = .ok c ↔ ∃ a, x = .ok a ∧ f a = c := by
  cases x <;> simp [Except.map]

theorem Except.bind_eq_ok_iff {α γ ε : Type} {f : α → Except ε γ} {x : Except ε α} {c : γ} :
    (x >>= f) = .ok c ↔ ∃ a, x = .ok a ∧ f a = .ok c := by
  cases x <;> simp [bind, Except.bind]

theorem Except.toOption_eq_some_iff {α ε : Type} {x : Except ε α} {a : α} :
    x.toOption = some a ↔ x = .ok a := by
  cases x <;> simp [Except.toOption]

/-! ## The values of the fields -/

open Toml

theorem readFlag_eq_ok_iff {v : Value} {b : Bool} : readFlag v = .ok b ↔ v = .boolean b := by
  cases v <;> simp [readFlag]

theorem readFlag_eq_error_iff {v : Value} {e : ConfigError} :
    readFlag v = .error e ↔ (∀ b, v ≠ .boolean b) ∧ e = .wrongKind v .flag := by
  unfold readFlag
  split
  · simp
  · next h => exact ⟨fun heq => ⟨h, (Except.error.inj heq).symm⟩, fun heq => by rw [heq.2]⟩

theorem readCapacity_eq_ok_iff {v : Value} {n : Nat} : readCapacity v = .ok n ↔ v = .integer n := by
  cases v with
  | integer i =>
    by_cases hi : i < 0
    · simp only [readCapacity, if_pos hi, reduceCtorEq, Value.integer.injEq, false_iff]
      omega
    · simp only [readCapacity, if_neg hi, Except.ok.injEq, Value.integer.injEq]
      omega
  | _ => simp [readCapacity]

theorem readCapacity_eq_error_iff {v : Value} {e : ConfigError} :
    readCapacity v = .error e ↔ ((∀ i, v ≠ .integer i) ∧ e = .wrongKind v .capacity) ∨
      ∃ i < 0, v = .integer i ∧ e = .negative i := by
  unfold readCapacity
  split
  · next i =>
    by_cases hi : i < 0
    · simp [hi, eq_comm]
    · simp [hi]
  · next h =>
    constructor
    · rintro ⟨⟩
      exact Or.inl ⟨h, rfl⟩
    · rintro (⟨-, rfl⟩ | ⟨i, -, rfl, -⟩)
      · rfl
      · exact absurd rfl (h i)

namespace CacheConfig

/-! ## The table of the cache -/

/-- The entry is for a field that cannot have its value, and the error says so. -/
def Refuses (entry : String × Value) (e : ConfigError) : Prop :=
  (entry.1 = "enabled" ∧ (∀ b, entry.2 ≠ .boolean b) ∧ e = .wrongKind entry.2 .flag) ∨
  (entry.1 = "initial_capacity" ∧ (∀ i, entry.2 ≠ .integer i) ∧ e = .wrongKind entry.2 .capacity) ∨
  (entry.1 = "initial_capacity" ∧ ∃ i < 0, entry.2 = .integer i ∧ e = .negative i)

theorem readEntry_enabled (c : CacheConfig) (v : Value) :
    c.readEntry ("enabled", v) = (readFlag v).map fun enabled => { c with enabled } := rfl

theorem readEntry_capacity (c : CacheConfig) (v : Value) :
    c.readEntry ("initial_capacity", v) =
      (readCapacity v).map fun initialCapacity => { c with initialCapacity } := rfl

theorem readEntry_of_unknown {entry : String × Value} (henabled : entry.1 ≠ "enabled")
    (hcapacity : entry.1 ≠ "initial_capacity") (c : CacheConfig) : c.readEntry entry = .ok c := by
  simp [readEntry, henabled, hcapacity]

theorem readEntry_eq_error_iff (c : CacheConfig) (entry : String × Value) (e : ConfigError) :
    c.readEntry entry = .error e ↔ Refuses entry e := by
  obtain ⟨key, v⟩ := entry
  unfold Refuses
  by_cases henabled : key = "enabled"
  · subst henabled
    rw [readEntry_enabled, Except.map_eq_error_iff, readFlag_eq_error_iff]
    simp
  · by_cases hcapacity : key = "initial_capacity"
    · subst hcapacity
      rw [readEntry_capacity, Except.map_eq_error_iff, readCapacity_eq_error_iff]
      simp
    · simp [readEntry_of_unknown, henabled, hcapacity]

theorem ofTable_eq_error_iff (entries : Table) (e : ConfigError) :
    ofTable entries = .error e ↔ ∃ front entry back, entries = front ++ entry :: back ∧
      Refuses entry e ∧ ∀ other ∈ front, ∀ e', ¬ Refuses other e' :=
  foldlM_eq_error_iff readEntry_eq_error_iff {} entries e

end CacheConfig

/-- A field has the value it is given, and the one from before if it is given none. -/
def Fills {α : Type} (embed : α → Value) (given : Option Value) (before after : α) : Prop :=
  given.elim (after = before) (· = embed after)

section

variable {α : Type} {embed : α → Value} {before after : α}

@[simp] theorem fills_none : Fills embed none before after ↔ after = before := Iff.rfl

@[simp] theorem fills_some {v : Value} : Fills embed (some v) before after ↔ v = embed after := Iff.rfl

theorem exists_fills_iff (before : α) {given : Option Value} :
    (∃ after, Fills embed given before after) ↔ ∀ v, given = some v → ∃ a, v = embed a := by
  cases given <;> simp

theorem Fills.reordered {given other : Option Value} (h : Fills embed given before after)
    (hsame : Option.Rel Value.Reordered given other) (harray : ∀ elements, embed after ≠ .array elements)
    (htable : ∀ entries, embed after ≠ .table entries) : Fills embed other before after := by
  cases hsame with
  | none => exact h
  | some hvw =>
    obtain rfl := h
    exact hvw.eq_of_scalar harray htable

end

namespace CacheConfig

theorem foldlM_readEntry_eq_ok_iff {entries : Table} (hkeys : (entries.map (·.1)).Nodup)
    (c c' : CacheConfig) :
    entries.foldlM readEntry c = .ok c' ↔
      Fills .boolean (entries.lookup "enabled") c.enabled c'.enabled ∧
      Fills (fun n : Nat => .integer n) (entries.lookup "initial_capacity") c.initialCapacity
        c'.initialCapacity := by
  induction entries generalizing c with
  | nil =>
    obtain ⟨enabled, capacity⟩ := c
    obtain ⟨enabled', capacity'⟩ := c'
    simp [pure, Except.pure, eq_comm]
  | cons entry rest ih =>
    obtain ⟨key, v⟩ := entry
    rw [List.map_cons, List.nodup_cons] at hkeys
    -- The key does not come again, so the value that is read now stays.
    have hrest := lookup_eq_none_iff_not_mem.2 hkeys.1
    rw [List.foldlM_cons]
    by_cases henabled : key = "enabled"
    · subst henabled
      rw [readEntry_enabled, Except.bind_eq_ok_iff, List.lookup_cons_self,
        lookup_cons_of_ne (by decide)]
      simp only [Except.map_eq_ok_iff, readFlag_eq_ok_iff, ih hkeys.2, hrest, fills_none, fills_some]
      constructor
      · rintro ⟨_, ⟨b, rfl, rfl⟩, rfl, h⟩
        exact ⟨rfl, h⟩
      · rintro ⟨rfl, h⟩
        exact ⟨_, ⟨_, rfl, rfl⟩, rfl, h⟩
    · by_cases hcapacity : key = "initial_capacity"
      · subst hcapacity
        rw [readEntry_capacity, Except.bind_eq_ok_iff, List.lookup_cons_self,
          lookup_cons_of_ne (by decide)]
        simp only [Except.map_eq_ok_iff, readCapacity_eq_ok_iff, ih hkeys.2, hrest, fills_none,
          fills_some]
        constructor
        · rintro ⟨_, ⟨n, rfl, rfl⟩, h, rfl⟩
          exact ⟨h, rfl⟩
        · rintro ⟨h, rfl⟩
          exact ⟨_, ⟨_, rfl, rfl⟩, h, rfl⟩
      · rw [readEntry_of_unknown henabled hcapacity, lookup_cons_of_ne (Ne.symm henabled),
          lookup_cons_of_ne (Ne.symm hcapacity)]
        exact ih hkeys.2 c

def known (entries : Table) : Table :=
  entries.filter fun entry => entry.1 = "enabled" ∨ entry.1 = "initial_capacity"

theorem ofTable_known (entries : Table) : ofTable (known entries) = ofTable entries := by
  unfold ofTable known
  rw [List.foldlM_filter]
  congr! with c entry
  split
  · rfl
  · next hunknown =>
    rw [decide_eq_true_iff, not_or] at hunknown
    exact (readEntry_of_unknown hunknown.1 hunknown.2 c).symm

def knownOf : Value → Value
  | .table entries => .table (known entries)
  | v => v

theorem ofValue_knownOf (v : Value) : ofValue (knownOf v) = ofValue v := by
  cases v with
  | table entries => exact ofTable_known entries
  | _ => rfl

end CacheConfig

namespace Config

/-! ## The root -/

theorem readEntry_cache (c : Config) (v : Value) :
    c.readEntry ("cache", v) = (CacheConfig.ofValue v).map fun cache => { c with cache } := rfl

theorem readEntry_of_unknown {entry : String × Value} (h : entry.1 ≠ "cache") (c : Config) :
    c.readEntry entry = .ok c := by
  simp [readEntry, h]

theorem foldlM_readEntry {entries : Table} (hkeys : (entries.map (·.1)).Nodup) (c : Config) :
    entries.foldlM readEntry c = (entries.lookup "cache").elim (.ok c) fun v =>
      (CacheConfig.ofValue v).map fun cache => { c with cache } := by
  induction entries generalizing c with
  | nil => rfl
  | cons entry rest ih =>
    obtain ⟨key, v⟩ := entry
    rw [List.map_cons, List.nodup_cons] at hkeys
    rw [List.foldlM_cons]
    by_cases hcache : key = "cache"
    · subst hcache
      have hrest : ∀ c, rest.foldlM readEntry c = .ok c := by
        intro c
        rw [ih hkeys.2, lookup_eq_none_iff_not_mem.2 hkeys.1]
        rfl
      rw [readEntry_cache, List.lookup_cons_self]
      cases h : CacheConfig.ofValue v with
      | error e => simp [h, Except.map, bind, Except.bind]
      | ok cache => simp [h, Except.map, bind, Except.bind, hrest]
    · rw [readEntry_of_unknown hcache, lookup_cons_of_ne (Ne.symm hcache)]
      exact ih hkeys.2 c

theorem ofTable_of_no_cache {entries : Table} (hkeys : (entries.map (·.1)).Nodup)
    (h : entries.lookup "cache" = none) : ofTable entries = .ok {} := by
  rw [ofTable, foldlM_readEntry hkeys, h]
  rfl

theorem ofTable_of_cache {entries inner : Table} (hkeys : (entries.map (·.1)).Nodup)
    (h : entries.lookup "cache" = some (.table inner)) :
    ofTable entries = (CacheConfig.ofTable inner).map fun cache => { cache } := by
  rw [ofTable, foldlM_readEntry hkeys, h]
  rfl

def known (entries : Table) : Table :=
  (entries.filter (·.1 = "cache")).map fun entry => (entry.1, CacheConfig.knownOf entry.2)

theorem readEntry_knownOf (c : Config) (entry : String × Value) :
    c.readEntry (entry.1, CacheConfig.knownOf entry.2) = c.readEntry entry := by
  simp only [readEntry, CacheConfig.ofValue_knownOf]

theorem ofTable_known (entries : Table) : ofTable (known entries) = ofTable entries := by
  unfold ofTable known
  simp only [List.foldlM_map, readEntry_knownOf, List.foldlM_filter]
  congr! with c entry
  split
  · rfl
  · next hunknown => exact (readEntry_of_unknown (by simpa using hunknown) c).symm

/-! ## Two paths -/

/-- The fields have the values at their paths, and their defaults where there is none. -/
@[mk_iff]
structure Reads (entries : Table) (c : Config) : Prop where
  enabled : Fills .boolean ((Value.table entries).at? ["cache", "enabled"]) true c.cache.enabled
  capacity : Fills (fun n : Nat => .integer n)
    ((Value.table entries).at? ["cache", "initial_capacity"]) 16 c.cache.initialCapacity

variable {entries : Table}

theorem at?_cache (key : String) :
    (Value.table entries).at? ["cache", key] = (entries.lookup "cache").bind (·.get? key) := by
  simp only [Value.at?, Value.get?, Option.bind_fun_some]

theorem ofTable_eq_ok_iff_reads (hentries : (Value.table entries).Formed)
    (hcache : ∀ v, entries.lookup "cache" = some v → ∃ inner, v = .table inner) (c : Config) :
    ofTable entries = .ok c ↔ Reads entries c := by
  have hkeys := hentries.keys
  rw [reads_iff, at?_cache, at?_cache]
  cases hlookup : entries.lookup "cache" with
  | none =>
    rw [ofTable_of_no_cache hkeys hlookup]
    obtain ⟨⟨enabled, capacity⟩⟩ := c
    simp [eq_comm]
  | some v =>
    obtain ⟨inner, rfl⟩ := hcache v hlookup
    have hinner : (inner.map (·.1)).Nodup := (hentries.get? hlookup).keys
    rw [ofTable_of_cache hkeys hlookup, Except.map_eq_ok_iff]
    simp only [CacheConfig.ofTable, CacheConfig.foldlM_readEntry_eq_ok_iff hinner, Option.bind_some,
      Value.get?]
    constructor
    · rintro ⟨cache, h, rfl⟩
      exact h
    · exact fun h => ⟨c.cache, h, rfl⟩

theorem ofTable_eq_error_iff (hkeys : (entries.map (·.1)).Nodup)
    (hcache : ∀ v, entries.lookup "cache" = some v → ∃ inner, v = .table inner) (e : ConfigError) :
    ofTable entries = .error e ↔ ∃ inner front entry back,
      entries.lookup "cache" = some (.table inner) ∧ inner = front ++ entry :: back ∧
      CacheConfig.Refuses entry e ∧ ∀ other ∈ front, ∀ e', ¬ CacheConfig.Refuses other e' := by
  cases hlookup : entries.lookup "cache" with
  | none =>
    rw [ofTable_of_no_cache hkeys hlookup]
    simp
  | some v =>
    obtain ⟨inner, rfl⟩ := hcache v hlookup
    rw [ofTable_of_cache hkeys hlookup, Except.map_eq_error_iff, CacheConfig.ofTable_eq_error_iff]
    constructor
    · rintro ⟨front, entry, back, h⟩
      exact ⟨inner, front, entry, back, rfl, h⟩
    · rintro ⟨_, front, entry, back, ⟨⟩, h⟩
      exact ⟨front, entry, back, h⟩

example : ofTable [("cache", .table [("initial_capacity", .integer (-1)), ("enabled", .string "no")])] =
    .error (.negative (-1)) := rfl

theorem exists_reads_iff : (∃ c, Reads entries c) ↔
    (∀ v, (Value.table entries).at? ["cache", "enabled"] = some v → ∃ b, v = .boolean b) ∧
    ∀ v, (Value.table entries).at? ["cache", "initial_capacity"] = some v →
      ∃ n : Nat, v = .integer n := by
  rw [← exists_fills_iff true, ← exists_fills_iff 16]
  constructor
  · rintro ⟨c, h⟩
    exact ⟨⟨_, h.enabled⟩, _, h.capacity⟩
  · rintro ⟨⟨enabled, henabled⟩, initialCapacity, hcapacity⟩
    exact ⟨⟨enabled, initialCapacity⟩, henabled, hcapacity⟩

theorem Reads.reordered {others : Table} {c : Config} (h : Reads entries c)
    (hentries : (Value.table entries).Formed)
    (hsame : Value.Reordered (.table entries) (.table others)) : Reads others c := by
  constructor
  · exact h.enabled.reordered (hsame.at? hentries _) nofun nofun
  · exact h.capacity.reordered (hsame.at? hentries _) nofun nofun

/-- A configuration depends on two paths of its document alone. -/
theorem ofTable_depends_on_fields (hentries : (Value.table entries).Formed)
    (hcache : ∀ v, entries.lookup "cache" = some v → ∃ inner, v = .table inner) :
    ((∃ c, ofTable entries = .ok c) ↔
      (∀ v, (Value.table entries).at? ["cache", "enabled"] = some v → ∃ b, v = .boolean b) ∧
      ∀ v, (Value.table entries).at? ["cache", "initial_capacity"] = some v →
        ∃ n : Nat, v = .integer n) ∧
    (∀ c, ofTable entries = .ok c ↔ Reads entries c) ∧
    (∀ e, ofTable entries = .error e ↔ ∃ inner front entry back,
      entries.lookup "cache" = some (.table inner) ∧ inner = front ++ entry :: back ∧
      CacheConfig.Refuses entry e ∧ ∀ other ∈ front, ∀ e', ¬ CacheConfig.Refuses other e') ∧
    (∀ others, known others = known entries → ofTable others = ofTable entries) ∧
    (∀ others, Value.Reordered (.table entries) (.table others) →
      ∀ c, ofTable entries = .ok c → ofTable others = .ok c) ∧
    ∀ document table, read document = some table →
      (Value.table table).Formed ∧ ofToml document = ofTable table := by
  have hreads := ofTable_eq_ok_iff_reads hentries hcache
  refine ⟨?_, hreads, ofTable_eq_error_iff hentries.keys hcache, ?_, ?_, ?_⟩
  · simp only [hreads]
    exact exists_reads_iff
  · intro others hknown
    rw [← ofTable_known, hknown, ofTable_known]
  · intro others hsame c hread
    have hothers : ∀ v, others.lookup "cache" = some v → ∃ inner, v = .table inner := by
      intro w hw
      obtain ⟨v, hv, hvw⟩ := hsame.exists_lookup_eq_some hentries hw
      obtain ⟨inner, rfl⟩ := hcache v hv
      exact hvw.exists_table
    exact (ofTable_eq_ok_iff_reads (hsame.formed hentries) hothers c).2
      (((hreads c).1 hread).reordered hentries hsame)
  · intro document table hread
    refine ⟨formed_of_read hread, ?_⟩
    unfold ofToml
    rw [hread]

def crowded : Table :=
  [("title", .string "limits"),
    ("cache", .table [("limits", .table [("enabled", .string "no")]), ("initial_capacity", .integer 0)])]

theorem ofTable_crowded :
    (Value.table crowded).Formed ∧
      (∀ v, crowded.lookup "cache" = some v → ∃ inner, v = .table inner) ∧
      ofTable crowded = .ok { cache := { enabled := true, initialCapacity := 0 } } ∧
      ofTable crowded.reverse = ofTable crowded := by
  have hlimits : (Value.table [("enabled", .string "no")]).Formed :=
    .table (by decide) (List.forall_mem_singleton.2 (.string "no"))
  have hinner : (Value.table [("limits", .table [("enabled", .string "no")]),
      ("initial_capacity", .integer 0)]).Formed :=
    .table (by decide) (List.forall_mem_cons.2
      ⟨hlimits, List.forall_mem_singleton.2 (.integer ⟨by decide, by decide⟩)⟩)
  have hformed : (Value.table crowded).Formed :=
    .table (by decide) (List.forall_mem_cons.2 ⟨.string _, List.forall_mem_singleton.2 hinner⟩)
  have hcache : ∀ v, crowded.lookup "cache" = some v → ∃ inner, v = .table inner := by
    rintro v ⟨⟩
    exact ⟨_, rfl⟩
  obtain ⟨-, hreads, -, -, hsame, -⟩ := ofTable_depends_on_fields hformed hcache
  have hread := (hreads { cache := { enabled := true, initialCapacity := 0 } }).2 ⟨rfl, rfl⟩
  exact ⟨hformed, hcache, hread, (hsame _ (.keys (List.reverse_perm _).symm) _ hread).trans hread.symm⟩

end Config

end Multimethod
