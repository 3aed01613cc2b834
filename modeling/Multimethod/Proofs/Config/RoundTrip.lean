import Multimethod.Proofs.Config.Fields
import Multimethod.Proofs.Toml.Document
import Multimethod.Proofs.Toml.Lines

/-! # Configurations as documents -/

namespace Multimethod

open Toml

/-! ## Capacities -/

theorem readCapacity_le {v : Value} (hv : v.Formed) {n : Nat} (h : readCapacity v = .ok n) :
    n ≤ 9223372036854775807 := by
  rw [readCapacity_eq_ok_iff] at h
  subst h
  cases hv with
  | integer hrange =>
    have := hrange.2
    omega

namespace CacheConfig

theorem capacity_le_of_ofTable {entries : Table} (hentries : (Value.table entries).Formed)
    {c : CacheConfig} (h : ofTable entries = .ok c) : c.initialCapacity ≤ 9223372036854775807 := by
  have hcapacity := ((foldlM_readEntry_eq_ok_iff hentries.keys {} c).1 h).2
  cases hlookup : entries.lookup "initial_capacity" with
  | none =>
    rw [hlookup, fills_none] at hcapacity
    rw [hcapacity]
    decide
  | some v =>
    rw [hlookup, fills_some] at hcapacity
    exact readCapacity_le (hentries.get? hlookup) (readCapacity_eq_ok_iff.2 hcapacity)

theorem capacity_le_of_ofArray {elements : List Value} (helements : ∀ v ∈ elements, v.Formed)
    {c : CacheConfig} (h : ofArray elements = .ok c) : c.initialCapacity ≤ 9223372036854775807 := by
  unfold ofArray at h
  split at h
  · cases h
    decide
  · obtain ⟨enabled, -, rfl⟩ := Except.map_eq_ok_iff.1 h
    show 16 ≤ 9223372036854775807
    decide
  · next flag capacity rest =>
    obtain ⟨enabled, -, h⟩ := Except.bind_eq_ok_iff.1 h
    obtain ⟨n, hn, h⟩ := Except.bind_eq_ok_iff.1 h
    cases h
    exact readCapacity_le (helements capacity (by simp)) hn

theorem capacity_le_of_ofValue {v : Value} (hv : v.Formed) {c : CacheConfig} (h : ofValue v = .ok c) :
    c.initialCapacity ≤ 9223372036854775807 := by
  cases hv with
  | table hkeys hentries => exact capacity_le_of_ofTable (.table hkeys hentries) h
  | array helements => exact capacity_le_of_ofArray helements h
  | moment =>
    cases h
    decide
  | _ => cases h

end CacheConfig

namespace Config

theorem capacity_le_of_ofToml {document : String} {c : Config} (h : ofToml document = .ok c) :
    c.cache.initialCapacity ≤ 9223372036854775807 := by
  unfold ofToml at h
  split at h
  · cases h
  · next entries hread =>
    have hentries := formed_of_read hread
    rw [ofTable, foldlM_readEntry hentries.keys] at h
    cases hlookup : entries.lookup "cache" with
    | none =>
      rw [hlookup] at h
      cases h
      decide
    | some v =>
      rw [hlookup] at h
      obtain ⟨cache, hcache, rfl⟩ := Except.map_eq_ok_iff.1 h
      exact CacheConfig.capacity_le_of_ofValue (hentries.get? hlookup) hcache

/-- What a program can come to without setting a field by hand. -/
inductive Obtainable : Config → Prop where
  | new : Obtainable {}
  | read {document : String} {c : Config} (h : ofToml document = .ok c) : Obtainable c
  | withoutCache {c : Config} (h : Obtainable c) : Obtainable c.withoutCache

theorem Obtainable.capacity_le {c : Config} (h : c.Obtainable) :
    c.cache.initialCapacity ≤ 9223372036854775807 := by
  induction h with
  | new => decide
  | read h => exact capacity_le_of_ofToml h
  | withoutCache _ ih => exact ih

/-! ## The round trip -/

theorem toList_toToml (c : Config) :
    c.toToml.toList = '[' :: ("cache".toList ++ ']' :: '\n' ::
      ("enabled".toList ++ ' ' :: '=' :: ' ' :: ((toString c.cache.enabled).toList ++ '\n' ::
        ("initial_capacity".toList ++ ' ' :: '=' :: ' ' ::
          (Text.digits c.cache.initialCapacity ++ '\n' :: []))))) := by
  unfold toToml Text.decimal
  simp only [String.toList_append, String.toList_ofList]
  simp

theorem lines_toToml {c : Config} (h : c.cache.initialCapacity ≤ 9223372036854775807) :
    lines {} c.toToml.toList = some
      { place := .table ⟨[], "cache"⟩
        current := [("enabled", .value (.boolean c.cache.enabled)),
          ("initial_capacity", .value (.integer c.cache.initialCapacity))] } := by
  have hcache : Bare "cache".toList := .of_all (by decide) (by decide)
  have henabled : Bare "enabled".toList := .of_all (by decide) (by decide)
  have hcapacity : Bare "initial_capacity".toList := .of_all (by decide) (by decide)
  rw [toList_toToml]
  rw [lines_of_line (by simp [skipBlanks, isBlank]) (hcache.line_header (startTable_start _) _)
    (by simp)]
  rw [lines_of_line (henabled.skipBlanks_append _) (henabled.line_pair
    (fun rest => value_boolean _ _ _) (Draft.insert_of_free rfl _) _) (by simp; omega)]
  rw [lines_of_line (hcapacity.skipBlanks_append _) (hcapacity.line_pair
    (fun rest => value_digits _ h _) (Draft.insert_of_free rfl _) _) (by simp)]
  simp [lines, skipBlanks]

theorem read_toToml {c : Config} (h : c.cache.initialCapacity ≤ 9223372036854775807) :
    Toml.read c.toToml = some [("cache", .table [("enabled", .boolean c.cache.enabled),
      ("initial_capacity", .integer c.cache.initialCapacity)])] := by
  have hlines := lines_toToml h
  rw [toList_toToml] at hlines
  exact read_of_lines (toList_toToml c) (by decide) hlines (finish_table _ _)

theorem ofToml_toToml {c : Config} (h : c.cache.initialCapacity ≤ 9223372036854775807) :
    ofToml c.toToml = .ok c := by
  have hcapacity : ¬ (c.cache.initialCapacity : Int) < 0 := by omega
  unfold ofToml
  rw [read_toToml h]
  simp [ofTable, readEntry, CacheConfig.ofValue, CacheConfig.ofTable, CacheConfig.readEntry, readFlag,
    readCapacity, hcapacity, Except.map, bind, pure, Except.bind, Except.pure]

/-- Every configuration that a program can come to survives being written and read. -/
theorem ofToml_inverts_toToml :
    (∀ c : Config, c.cache.initialCapacity ≤ 9223372036854775807 → ofToml c.toToml = .ok c) ∧
    (∀ c : Config, c.Obtainable → c.cache.initialCapacity ≤ 9223372036854775807) ∧
    ∀ document c, ofToml document = .ok c → ofToml c.toToml = ofToml document := by
  refine ⟨fun c hc => ofToml_toToml hc, fun c hc => hc.capacity_le, fun document c hread => ?_⟩
  rw [hread]
  exact ofToml_toToml (capacity_le_of_ofToml hread)

theorem ofToml_inverts_toToml_widest :
    ofToml (toToml { cache := { enabled := false, initialCapacity := 9223372036854775807 } }) =
      .ok { cache := { enabled := false, initialCapacity := 9223372036854775807 } } ∧
    (withoutCache {}).Obtainable ∧ (withoutCache {}).cache.initialCapacity ≤ 9223372036854775807 ∧
    ofToml "cache.enabled = false # off\nother = [1, 2]\n" = .ok { cache := { enabled := false } } ∧
    ofToml (toToml { cache := { enabled := false } }) =
      ofToml "cache.enabled = false # off\nother = [1, 2]\n" := by
  have hwritten := ofToml_inverts_toToml.1
    { cache := { enabled := false, initialCapacity := 9223372036854775807 } } (Nat.le_refl _)
  have hnew : (withoutCache {}).Obtainable := .withoutCache .new
  have hread : ofToml "cache.enabled = false # off\nother = [1, 2]\n" =
      .ok { cache := { enabled := false } } := Except.toOption_eq_some_iff.1 (by decide +kernel)
  exact ⟨hwritten, hnew, ofToml_inverts_toToml.2.1 _ hnew, hread,
    ofToml_inverts_toToml.2.2 _ _ hread⟩

end Config

end Multimethod
