import Mathlib.Data.List.Nodup
import Multimethod.Toml.Draft

/-! # Keys stand once -/

namespace Multimethod.Toml

/-! ## Keys of a list -/

section

variable {α : Type} {entries : List (String × α)} {key : String} {a : α}

theorem mem_of_lookup (h : entries.lookup key = some a) : (key, a) ∈ entries := by
  obtain ⟨before, after, rfl, -⟩ := List.lookup_eq_some_iff.1 h
  simp

theorem lookup_eq_none_iff_not_mem : entries.lookup key = none ↔ key ∉ entries.map (·.1) := by
  rw [List.lookup_eq_none_iff]
  constructor
  · intro h hmem
    obtain ⟨entry, hentry, rfl⟩ := List.mem_map.1 hmem
    simpa using h entry hentry
  · intro h entry hentry
    have hne : key ≠ entry.1 := fun heq => h (heq ▸ List.mem_map_of_mem hentry)
    simpa using hne

theorem lookup_eq_some_iff_mem (hkeys : (entries.map (·.1)).Nodup) :
    entries.lookup key = some a ↔ (key, a) ∈ entries := by
  refine ⟨mem_of_lookup, fun hmem => ?_⟩
  obtain ⟨front, back, rfl⟩ := List.append_of_mem hmem
  rw [List.map_append, List.map_cons, List.nodup_middle, List.nodup_cons, List.mem_append,
    not_or] at hkeys
  rw [List.lookup_append, lookup_eq_none_iff_not_mem.2 hkeys.1.1, List.lookup_cons_self]
  rfl

theorem lookup_cons_of_ne {other : String} (h : key ≠ other) (a : α) (entries : List (String × α)) :
    ((other, a) :: entries).lookup key = entries.lookup key := by
  rw [List.lookup_cons, beq_eq_false_iff_ne.2 h]

end

/-! ## Formed values and nodes -/

def InRange (n : Int) : Prop := -9223372036854775808 ≤ n ∧ n ≤ 9223372036854775807

/-- Whole numbers have 64 bits, and each key of a table stands there once. -/
inductive Value.Formed : Value → Prop where
  | boolean (b : Bool) : Formed (.boolean b)
  | integer {n : Int} (h : InRange n) : Formed (.integer n)
  | float (x : Binary64) : Formed (.float x)
  | string (s : String) : Formed (.string s)
  | moment (m : Moment) : Formed (.moment m)
  | array {elements : List Value} (h : ∀ v ∈ elements, Formed v) : Formed (.array elements)
  | table {entries : Table} (hkeys : (entries.map (·.1)).Nodup)
    (h : ∀ entry ∈ entries, Formed entry.2) : Formed (.table entries)

theorem Value.Formed.keys {entries : Table} (h : (Value.table entries).Formed) :
    (entries.map (·.1)).Nodup := by
  cases h with
  | table hkeys => exact hkeys

inductive Node.Formed : Node → Prop where
  | value {v : Value} (h : v.Formed) : Formed (.value v)
  | table {standing : Standing} {entries : Nodes} (hkeys : (entries.map (·.1)).Nodup)
    (h : ∀ entry ∈ entries, Formed entry.2) : Formed (.table standing entries)
  | tables {elements : List Nodes} (hkeys : ∀ entries ∈ elements, (entries.map (·.1)).Nodup)
    (h : ∀ entries ∈ elements, ∀ entry ∈ entries, Formed entry.2) : Formed (.tables elements)

namespace Nodes

structure Formed (nodes : Nodes) : Prop where
  keys : (nodes.map (·.1)).Nodup
  nodes : ∀ entry ∈ nodes, entry.2.Formed

variable {nodes : Nodes} {key : String} {node : Node}

theorem formed_nil : Formed [] := ⟨List.nodup_nil, List.forall_mem_nil _⟩

theorem formed_table_iff {standing : Standing} :
    (Node.table standing nodes).Formed ↔ nodes.Formed := by
  constructor
  · intro h
    cases h with
    | table hkeys h => exact ⟨hkeys, h⟩
  · exact fun h => .table h.keys h.nodes

theorem formed_tables_iff {elements : List Nodes} :
    (Node.tables elements).Formed ↔ ∀ entries ∈ elements, Formed entries := by
  constructor
  · intro h
    cases h with
    | tables hkeys h => exact fun entries hmem => ⟨hkeys entries hmem, h entries hmem⟩
  · exact fun h => .tables (fun entries hmem => (h entries hmem).keys)
      fun entries hmem => (h entries hmem).nodes

theorem Formed.concat (h : nodes.Formed) (hfree : nodes.lookup key = none) (hnode : node.Formed) :
    Formed (nodes ++ [(key, node)]) := by
  refine ⟨?_, List.forall_mem_append.2 ⟨h.nodes, List.forall_mem_singleton.2 hnode⟩⟩
  rw [List.map_append, List.map_singleton, ← List.concat_eq_append]
  exact h.keys.concat (lookup_eq_none_iff_not_mem.1 hfree)

theorem keys_replace (nodes : Nodes) (key : String) (node : Node) :
    (nodes.replace key node).map (·.1) = nodes.map (·.1) := by
  unfold replace
  rw [List.map_map]
  apply List.map_congr_left
  intro entry _
  by_cases h : entry.1 = key <;> simp [h]

theorem Formed.replace (h : nodes.Formed) (key : String) (hnode : node.Formed) :
    (nodes.replace key node).Formed := by
  refine ⟨by rw [keys_replace]; exact h.keys, fun entry hentry => ?_⟩
  obtain ⟨old, hold, rfl⟩ := List.mem_map.1 hentry
  split
  · exact hnode
  · exact h.nodes old hold

theorem lookup_replace (nodes : Nodes) (key : String) (node : Node) :
    (nodes.replace key node).lookup key = (nodes.lookup key).map fun _ => node := by
  unfold replace
  induction nodes with
  | nil => rfl
  | cons entry rest ih =>
    obtain ⟨other, old⟩ := entry
    rw [List.map_cons]
    by_cases hkey : other = key
    · subst hkey
      rw [if_pos rfl, List.lookup_cons_self, List.lookup_cons_self, Option.map_some]
    · rw [if_neg hkey, lookup_cons_of_ne (Ne.symm hkey), lookup_cons_of_ne (Ne.symm hkey), ih]

theorem lookup_filter_ne (nodes : Nodes) (key : String) :
    (nodes.filter (·.1 ≠ key)).lookup key = none := by
  rw [List.lookup_eq_none_iff]
  intro entry hentry
  simpa using Ne.symm (by simpa using (List.mem_filter.1 hentry).2)

theorem Formed.filter (h : nodes.Formed) (p : String × Node → Bool) : Formed (nodes.filter p) :=
  ⟨h.keys.sublist (List.filter_sublist.map _),
    fun entry hentry => h.nodes entry (List.mem_filter.1 hentry).1⟩

theorem lookup_concat (h : nodes.lookup key = none) :
    (nodes ++ [(key, node)]).lookup key = some node := by
  simp [List.lookup_append, h]

/-! ## The end of a path -/

/-- What holds of the nodes at the end of a path, as headers go along it. -/
def AtEnd (P : Nodes → Prop) : List String → Nodes → Prop
  | [], nodes => P nodes
  | key :: path, nodes =>
    match nodes.lookup key with
    | none => AtEnd P path []
    | some (.value _) => True
    | some (.table _ inner) => AtEnd P path inner
    | some (.tables elements) => ∀ last, elements.getLast? = some last → AtEnd P path last

theorem atEnd_of_forall {P : Nodes → Prop} (h : ∀ nodes, P nodes) (path : List String)
    (nodes : Nodes) : AtEnd P path nodes := by
  induction path generalizing nodes with
  | nil => exact h nodes
  | cons key path ih =>
    unfold AtEnd
    split
    · exact ih _
    · trivial
    · exact ih _
    · exact fun last _ => ih last

variable {α : Type} {dotted : Bool} {change : Standing → Nodes → Option (α × Nodes)}
  {path : List String} {standing : Standing} {nodes' : Nodes} {a : α}

theorem modify_cons (h : modify dotted change (key :: path) standing nodes = some (a, nodes')) :
    (nodes.lookup key = none ∧ ∃ standing inner,
      modify dotted change path standing [] = some (a, inner) ∧
      nodes' = nodes ++ [(key, .table standing inner)]) ∨
    (∃ standing inner inner', nodes.lookup key = some (.table standing inner) ∧
      modify dotted change path standing inner = some (a, inner') ∧
      nodes' = nodes.replace key (.table standing inner')) ∨
    ∃ elements last last', nodes.lookup key = some (.tables elements) ∧
      elements.getLast? = some last ∧ modify dotted change path .header last = some (a, last') ∧
      nodes' = nodes.replace key (.tables (elements.dropLast ++ [last'])) := by
  unfold modify at h
  split at h
  · next hfree =>
    simp only [Option.bind_eq_bind, Option.bind_eq_some_iff, Prod.exists] at h
    obtain ⟨b, inner, hinner, h⟩ := h
    cases h
    exact Or.inl ⟨hfree, _, inner, hinner, rfl⟩
  · cases h
  · next inner hlookup =>
    split at h
    · cases h
    · simp only [Option.bind_eq_bind, Option.bind_eq_some_iff, Prod.exists] at h
      obtain ⟨b, inner', hinner, h⟩ := h
      cases h
      exact Or.inr (Or.inl ⟨_, inner, inner', hlookup, hinner, rfl⟩)
  · next elements hlookup =>
    simp only [Option.bind_eq_bind, Option.bind_eq_some_iff, Prod.exists] at h
    obtain ⟨last, hlast, b, last', hinner, h⟩ := h
    cases h
    exact Or.inr (Or.inr ⟨elements, last, last', hlookup, hlast, hinner, rfl⟩)

theorem atEnd_modify {P : Nodes → Prop}
    (hchange : ∀ standing inner a inner', change standing inner = some (a, inner') → P inner')
    (h : modify dotted change path standing nodes = some (a, nodes')) : AtEnd P path nodes' := by
  induction path generalizing standing nodes nodes' with
  | nil => exact hchange standing nodes a nodes' h
  | cons key path ih =>
    unfold AtEnd
    rcases modify_cons h with ⟨hfree, standing, inner, hinner, rfl⟩ |
      ⟨standing, inner, inner', hlookup, hinner, rfl⟩ |
      ⟨elements, last, last', hlookup, hlast, hinner, rfl⟩
    · simpa only [lookup_concat hfree] using ih hinner
    · simpa only [lookup_replace, hlookup, Option.map_some] using ih hinner
    · simpa [lookup_replace, hlookup] using ih hinner

/-- A change that keeps the nodes at the end of a path formed keeps all of them formed. -/
theorem Formed.modify {P : Nodes → Prop} {Q : α → Prop}
    (hchange : ∀ standing inner a inner', inner.Formed → P inner →
      change standing inner = some (a, inner') → Q a ∧ inner'.Formed)
    (hnodes : nodes.Formed) (hend : AtEnd P path nodes)
    (h : modify dotted change path standing nodes = some (a, nodes')) : Q a ∧ nodes'.Formed := by
  -- The path gets shorter, and each table on it takes the changed one in under the key it has.
  induction path generalizing standing nodes nodes' with
  | nil => exact hchange standing nodes a nodes' hnodes hend h
  | cons key path ih =>
    unfold AtEnd at hend
    rcases modify_cons h with ⟨hfree, standing, inner, hinner, rfl⟩ |
      ⟨standing, inner, inner', hlookup, hinner, rfl⟩ |
      ⟨elements, last, last', hlookup, hlast, hinner, rfl⟩
    · simp only [hfree] at hend
      obtain ⟨hq, hformed⟩ := ih formed_nil hend hinner
      exact ⟨hq, hnodes.concat hfree (formed_table_iff.2 hformed)⟩
    · simp only [hlookup] at hend
      have hold := formed_table_iff.1 (hnodes.nodes _ (mem_of_lookup hlookup))
      obtain ⟨hq, hformed⟩ := ih hold hend hinner
      exact ⟨hq, hnodes.replace key (formed_table_iff.2 hformed)⟩
    · simp only [hlookup] at hend
      have hold := formed_tables_iff.1 (hnodes.nodes _ (mem_of_lookup hlookup))
      obtain ⟨hq, hformed⟩ := ih (hold last (List.mem_of_getLast? hlast)) (hend last hlast) hinner
      refine ⟨hq, hnodes.replace key (formed_tables_iff.2 (List.forall_mem_append.2 ⟨?_, ?_⟩))⟩
      · exact fun entries hmem => hold entries ((List.dropLast_sublist elements).subset hmem)
      · exact List.forall_mem_singleton.2 hformed

theorem Formed.modify_of_forall
    (hchange : ∀ standing inner a inner', inner.Formed → change standing inner = some (a, inner') →
      inner'.Formed)
    (hnodes : nodes.Formed) (h : Nodes.modify dotted change path standing nodes = some (a, nodes')) :
    nodes'.Formed :=
  (Formed.modify (P := fun _ => True) (Q := fun _ => True)
    (fun standing inner a inner' hinner _ h => ⟨trivial, hchange standing inner a inner' hinner h⟩)
    hnodes (atEnd_of_forall (fun _ => trivial) _ _) h).2

/-! ## One more value -/

theorem Formed.insert (hnodes : nodes.Formed) {key : KeyPath} {v : Value} (hv : v.Formed)
    (h : nodes.insert key v = some nodes') : nodes'.Formed := by
  unfold Nodes.insert at h
  obtain ⟨⟨_, inserted⟩, hmodify, rfl⟩ := Option.map_eq_some_iff.1 h
  refine Formed.modify_of_forall ?_ hnodes hmodify
  intro standing inner a inner' hinner hadd
  split at hadd
  · cases hadd
  · next hfree =>
    cases hadd
    rw [not_or, Option.not_isSome_iff_eq_none] at hfree
    exact hinner.concat hfree.2 (.value hv)

end Nodes

/-! ## Documents under construction -/

theorem closeNodes_eq_map (nodes : Nodes) :
    closeNodes nodes = nodes.map fun entry => (entry.1, entry.2.close) := by
  induction nodes with
  | nil => rfl
  | cons entry rest ih => rw [closeNodes, ih, List.map_cons]

theorem closeElements_eq_map (elements : List Nodes) :
    closeElements elements = elements.map fun entries => .table (closeNodes entries) := by
  induction elements with
  | nil => rfl
  | cons entries rest ih => rw [closeElements, ih, List.map_cons]

theorem formed_closeNodes_of_forall {nodes : Nodes} (hkeys : (nodes.map (·.1)).Nodup)
    (h : ∀ entry ∈ nodes, entry.2.close.Formed) : (Value.table (closeNodes nodes)).Formed := by
  rw [closeNodes_eq_map]
  refine .table ?_ (List.forall_mem_map.2 h)
  rw [List.map_map]
  exact hkeys

theorem Node.Formed.close {node : Node} (h : node.Formed) : node.close.Formed := by
  induction h with
  | value h => exact h
  | table hkeys _ ih => exact formed_closeNodes_of_forall hkeys ih
  | tables hkeys _ ih =>
    unfold Node.close
    rw [closeElements_eq_map]
    exact .array (List.forall_mem_map.2 fun entries hmem =>
      formed_closeNodes_of_forall (hkeys entries hmem) (ih entries hmem))

theorem Nodes.Formed.close {nodes : Nodes} (h : nodes.Formed) :
    (Value.table (closeNodes nodes)).Formed :=
  formed_closeNodes_of_forall h.keys fun entry hentry => (h.nodes entry hentry).close

namespace Draft

structure Formed (d : Draft) : Prop where
  root : d.root.Formed
  current : d.current.Formed
  vacant : ∀ key, d.place = .table key →
    Nodes.AtEnd (·.lookup key.name = none) key.parents d.root

variable {d d' : Draft} {key : KeyPath}

theorem formed_start : Formed {} := ⟨Nodes.formed_nil, Nodes.formed_nil, nofun⟩

theorem Formed.insert (h : d.Formed) {v : Value} (hv : v.Formed) (hinsert : d.insert key v = some d') :
    d'.Formed := by
  obtain ⟨current, hcurrent, rfl⟩ := Option.map_eq_some_iff.1 hinsert
  exact ⟨h.root, h.current.insert hv hcurrent, h.vacant⟩

theorem Formed.finish (h : d.Formed) {nodes : Nodes} (hfinish : d.finish = some nodes) :
    nodes.Formed := by
  unfold Draft.finish at hfinish
  split at hfinish
  · cases hfinish
    exact h.current
  · next key hplace =>
    obtain ⟨⟨_, finished⟩, hmodify, rfl⟩ := Option.map_eq_some_iff.1 hfinish
    refine (Nodes.Formed.modify (Q := fun _ => True) ?_ h.root (h.vacant key hplace) hmodify).2
    intro standing inner a inner' hinner hfree hadd
    cases hadd
    exact ⟨trivial, hinner.concat hfree (Nodes.formed_table_iff.2 h.current)⟩
  · next key hplace =>
    obtain ⟨⟨_, finished⟩, hmodify, rfl⟩ := Option.map_eq_some_iff.1 hfinish
    refine Nodes.Formed.modify_of_forall ?_ h.root hmodify
    intro standing inner a inner' hinner hadd
    split at hadd
    · next elements hlookup =>
      cases hadd
      have hold := Nodes.formed_tables_iff.1 (hinner.nodes _ (mem_of_lookup hlookup))
      exact hinner.replace _ (Nodes.formed_tables_iff.2
        (List.forall_mem_append.2 ⟨hold, List.forall_mem_singleton.2 h.current⟩))
    · cases hadd

theorem Formed.startTable (h : d.Formed) (hstart : d.startTable key = some d') : d'.Formed := by
  unfold Draft.startTable at hstart
  simp only [Option.bind_eq_bind, Option.bind_eq_some_iff, Prod.exists] at hstart
  obtain ⟨root, hroot, current, root', hmodify, h'⟩ := hstart
  cases h'
  have hformed : current.Formed ∧ root'.Formed := by
    refine Nodes.Formed.modify (P := fun _ => True) ?_ (h.finish hroot)
      (Nodes.atEnd_of_forall (fun _ => trivial) _ _) hmodify
    intro standing inner taken inner' hinner _ htake
    split at htake
    · cases htake
      exact ⟨Nodes.formed_nil, hinner⟩
    · next below hlookup =>
      cases htake
      exact ⟨Nodes.formed_table_iff.1 (hinner.nodes _ (mem_of_lookup hlookup)), hinner.filter _⟩
    · cases htake
  refine ⟨hformed.2, hformed.1, ?_⟩
  -- Either nothing was there or the table was taken out.
  rintro _ ⟨⟩
  refine Nodes.atEnd_modify ?_ hmodify
  intro standing inner taken inner' htake
  split at htake
  · next hfree =>
    cases htake
    exact hfree
  · cases htake
    exact Nodes.lookup_filter_ne inner key.name
  · cases htake

theorem Formed.startElement (h : d.Formed) (hstart : d.startElement key = some d') : d'.Formed := by
  unfold Draft.startElement at hstart
  simp only [Option.bind_eq_bind, Option.bind_eq_some_iff, Prod.exists] at hstart
  obtain ⟨root, hroot, _, root', hmodify, h'⟩ := hstart
  cases h'
  refine ⟨Nodes.Formed.modify_of_forall ?_ (h.finish hroot) hmodify, Nodes.formed_nil, nofun⟩
  intro standing inner a inner' hinner hprepare
  split at hprepare
  · next hfree =>
    cases hprepare
    exact hinner.concat hfree (Nodes.formed_tables_iff.2 (List.forall_mem_nil _))
  · cases hprepare
    exact hinner
  · cases hprepare

end Draft

end Multimethod.Toml
