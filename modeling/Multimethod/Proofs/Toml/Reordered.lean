import Multimethod.Proofs.Toml.Draft

/-! # Other orders of the keys -/

namespace Multimethod.Toml

namespace Value

def get? (key : String) : Value → Option Value
  | .table entries => entries.lookup key
  | _ => none

def at? : List String → Value → Option Value
  | [], v => some v
  | key :: path, v => (v.get? key).bind (at? path)

/-- The same up to the order of the keys in any table. -/
inductive Reordered : Value → Value → Prop where
  | refl (v : Value) : Reordered v v
  | keys {entries others : Table} (h : entries.Perm others) : Reordered (.table entries) (.table others)
  | entry {v w : Value} (front : Table) (key : String) (back : Table) (h : Reordered v w) :
    Reordered (.table (front ++ (key, v) :: back)) (.table (front ++ (key, w) :: back))
  | element {v w : Value} (front back : List Value) (h : Reordered v w) :
    Reordered (.array (front ++ v :: back)) (.array (front ++ w :: back))
  | trans {u v w : Value} (huv : Reordered u v) (hvw : Reordered v w) : Reordered u w

variable {v w : Value}

theorem Formed.get? (h : v.Formed) {key : String} (hget : v.get? key = some w) : w.Formed := by
  cases h with
  | table _ hentries => exact hentries _ (mem_of_lookup hget)
  | _ => cases hget

namespace Reordered

theorem formed (h : Reordered v w) (hv : v.Formed) : w.Formed := by
  induction h with
  | refl => exact hv
  | keys hperm =>
    cases hv with
    | table hkeys hentries =>
      exact .table ((hperm.map _).nodup_iff.1 hkeys) fun entry hmem =>
        hentries entry (hperm.mem_iff.2 hmem)
  | entry front key back _ ih =>
    cases hv with
    | table hkeys hentries =>
      rw [List.forall_mem_append, List.forall_mem_cons] at hentries
      refine .table (by simpa using hkeys) ?_
      rw [List.forall_mem_append, List.forall_mem_cons]
      exact ⟨hentries.1, ih hentries.2.1, hentries.2.2⟩
  | element front back _ ih =>
    cases hv with
    | array helements =>
      rw [List.forall_mem_append, List.forall_mem_cons] at helements
      refine .array ?_
      rw [List.forall_mem_append, List.forall_mem_cons]
      exact ⟨helements.1, ih helements.2.1, helements.2.2⟩
  | trans _ _ ihuv ihvw => exact ihvw (ihuv hv)

theorem exists_table {entries : Table} (h : Reordered (.table entries) w) :
    ∃ others, w = .table others := by
  generalize hv : Value.table entries = v at h
  induction h generalizing entries with
  | refl => exact ⟨entries, hv.symm⟩
  | keys => exact ⟨_, rfl⟩
  | entry => exact ⟨_, rfl⟩
  | element => cases hv
  | trans _ _ ihuv ihvw =>
    obtain ⟨others, rfl⟩ := ihuv hv
    exact ihvw rfl

theorem eq_of_scalar (h : Reordered v w) (harray : ∀ elements, v ≠ .array elements)
    (htable : ∀ entries, v ≠ .table entries) : w = v := by
  induction h with
  | refl => rfl
  | keys => exact absurd rfl (htable _)
  | entry => exact absurd rfl (htable _)
  | element => exact absurd rfl (harray _)
  | trans _ _ ihuv ihvw =>
    obtain rfl := ihuv harray htable
    exact ihvw harray htable

theorem rel_refl (given : Option Value) : Option.Rel Reordered given given := by
  cases given with
  | none => exact .none
  | some v => exact .some (.refl v)

theorem rel_trans {a b c : Option Value} (hab : Option.Rel Reordered a b)
    (hbc : Option.Rel Reordered b c) : Option.Rel Reordered a c := by
  cases hab with
  | none => exact hbc
  | some huv =>
    cases hbc with
    | some hvw => exact .some (huv.trans hvw)

theorem rel_bind {a b : Option Value} {f : Value → Option Value} (hab : Option.Rel Reordered a b)
    (hf : ∀ u, a = some u → ∀ v, Reordered u v → Option.Rel Reordered (f u) (f v)) :
    Option.Rel Reordered (a.bind f) (b.bind f) := by
  cases hab with
  | none => exact .none
  | some huv => exact hf _ rfl _ huv

theorem get? (h : Reordered v w) (hv : v.Formed) (key : String) :
    Option.Rel Reordered (v.get? key) (w.get? key) := by
  induction h with
  | refl v => exact rel_refl _
  | @keys entries others hperm =>
    cases hv with
    | table hkeys =>
      have hothers : (others.map (·.1)).Nodup := (hperm.map _).nodup_iff.1 hkeys
      have hsame : entries.lookup key = others.lookup key := by
        ext v
        rw [lookup_eq_some_iff_mem hkeys, lookup_eq_some_iff_mem hothers, hperm.mem_iff]
      simp only [Value.get?, hsame]
      exact rel_refl _
  | entry front key' back h =>
    simp only [Value.get?, List.lookup_append, List.lookup_cons]
    cases front.lookup key with
    | some => exact .some (.refl _)
    | none =>
      cases hkey : key == key' with
      | true => exact .some h
      | false => exact rel_refl _
  | element => exact .none
  | trans huv _ ihuv ihvw => exact rel_trans (ihuv hv) (ihvw (huv.formed hv))

theorem exists_lookup_eq_some {entries others : Table} (h : Reordered (.table entries) (.table others))
    (hentries : (Value.table entries).Formed) {key : String} (hw : others.lookup key = some w) :
    ∃ v, entries.lookup key = some v ∧ Reordered v w := by
  have hget : Option.Rel Reordered (entries.lookup key) (others.lookup key) := h.get? hentries key
  rw [hw] at hget
  generalize entries.lookup key = given at hget
  cases hget with
  | some hvw => exact ⟨_, rfl, hvw⟩

theorem at? (h : Reordered v w) (hv : v.Formed) (path : List String) :
    Option.Rel Reordered (v.at? path) (w.at? path) := by
  induction path generalizing v w with
  | nil => exact .some h
  | cons key path ih =>
    unfold Value.at?
    exact rel_bind (h.get? hv key) fun inner hinner other hother => ih hother (hv.get? hinner)

end Reordered

end Value

end Multimethod.Toml
