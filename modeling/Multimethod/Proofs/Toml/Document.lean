import Multimethod.Proofs.Toml.Draft
import Multimethod.Toml.Document

/-! # The tree of a document -/

namespace Multimethod.Toml

/-! ## Values -/

theorem formed_of_integerOf? {n : Int} {v : Value} (h : integerOf? n = some v) : v.Formed := by
  unfold integerOf? at h
  split at h
  · next hrange =>
    cases h
    exact .integer hrange
  · cases h

theorem formed_of_floatOf? {negative : Bool} {digits : List Char} {power : Int} {v : Value}
    (h : floatOf? negative digits power = some v) : v.Formed := by
  unfold floatOf? at h
  split at h
  · cases h
  · cases h
    exact .float _

def Reader.GivesFormed (r : Reader Value) : Prop := ∀ ⦃cs v rest⦄, r cs = some (v, rest) → v.Formed

theorem givesFormed_basedInteger (base : Nat) : Reader.GivesFormed (basedInteger base) := by
  intro cs v rest h
  unfold basedInteger at h
  simp only [Option.bind_eq_bind, Option.bind_eq_some_iff, Prod.exists] at h
  obtain ⟨digits, rest', -, v', hv, h⟩ := h
  cases h
  exact formed_of_integerOf? hv

theorem givesFormed_withExponent (negative : Bool) (digits : List Char) :
    Reader.GivesFormed (afterDigits.withExponent negative digits) := by
  intro cs v rest h
  unfold afterDigits.withExponent at h
  simp only [Option.bind_eq_bind, Option.bind_eq_some_iff, Prod.exists] at h
  obtain ⟨power, rest', -, v', hv, h⟩ := h
  cases h
  exact formed_of_floatOf? hv

theorem givesFormed_afterDigits (negative : Bool) (digits : List Char) :
    Reader.GivesFormed (afterDigits negative digits) := by
  intro cs v rest h
  unfold afterDigits at h
  split at h
  · simp only [Option.bind_eq_bind, Option.bind_eq_some_iff, Prod.exists] at h
    obtain ⟨places, rest', -, h⟩ := h
    split at h
    all_goals
      simp only [Option.bind_eq_some_iff, Prod.exists] at h
      obtain ⟨power, rest'', -, v', hv, h⟩ := h
      cases h
      exact formed_of_floatOf? hv
  · exact givesFormed_withExponent negative digits h
  · exact givesFormed_withExponent negative digits h
  · obtain ⟨v', hv, h⟩ := Option.map_eq_some_iff.1 h
    cases h
    exact formed_of_integerOf? hv

theorem givesFormed_number : Reader.GivesFormed number := by
  intro cs v rest h
  unfold number at h
  split at h
  · exact givesFormed_basedInteger 16 h
  · exact givesFormed_basedInteger 8 h
  · exact givesFormed_basedInteger 2 h
  · split at h
    · cases h
      exact .float _
    · cases h
      exact .float _
    · obtain ⟨⟨digits, rest'⟩, -, h⟩ := Option.bind_eq_some_iff.1 h
      exact givesFormed_afterDigits _ digits h

theorem givesFormed_scalar : Reader.GivesFormed scalar := by
  intro cs v rest h
  unfold scalar at h
  split at h
  · cases h
    exact .boolean true
  · cases h
    exact .boolean false
  · split at h
    · obtain ⟨⟨s, rest'⟩, -, h⟩ := Option.map_eq_some_iff.1 h
      cases h
      exact .string s
    · split at h
      · split at h
        · cases h
          exact .moment _
        · exact givesFormed_number h
      · cases h
  · cases h

theorem formed_of_elements {value : Reader Value} (hvalue : value.GivesFormed) {cs rest : List Char}
    {vs : List Value} (h : elements value cs = some (vs, rest)) : ∀ v ∈ vs, v.Formed := by
  fun_induction elements value cs generalizing vs rest with
  | case2 =>
    cases h
    exact List.forall_mem_nil _
  | case4 _ _ _ _ _ _ hfirst =>
    cases h
    exact List.forall_mem_singleton.2 (hvalue hfirst)
  | case5 _ _ _ _ _ _ hfirst _ _ _ ih =>
    obtain ⟨⟨others, rest'⟩, hothers, h⟩ := Option.map_eq_some_iff.1 h
    cases h
    exact List.forall_mem_cons.2 ⟨hvalue hfirst, ih hothers⟩
  | _ => cases h

theorem formed_of_keyValue {value : Reader Value} (hvalue : value.GivesFormed) {cs rest : List Char}
    {key : KeyPath} {v : Value} (h : keyValue value cs = some ((key, v), rest)) : v.Formed := by
  unfold keyValue at h
  simp only [Option.bind_eq_bind, Option.bind_eq_some_iff, Prod.exists] at h
  obtain ⟨key', _, -, _, -, v', _, hv, h⟩ := h
  cases h
  exact hvalue hv

theorem formed_of_pairs {value : Reader Value} (hvalue : value.GivesFormed) {cs rest : List Char}
    {nodes nodes' : Nodes} (hnodes : nodes.Formed) (h : pairs value nodes cs = some (nodes', rest)) :
    nodes'.Formed := by
  fun_induction pairs value nodes cs generalizing nodes' rest with
  | case3 _ _ _ _ _ hpair _ hinsert =>
    cases h
    exact hnodes.insert (formed_of_keyValue hvalue hpair) hinsert
  | case4 _ _ _ _ _ hpair _ hinsert _ _ _ ih =>
    exact ih (hnodes.insert (formed_of_keyValue hvalue hpair) hinsert) h
  | _ => cases h

theorem givesFormed_inlineTable {value : Reader Value} (hvalue : value.GivesFormed) :
    Reader.GivesFormed (inlineTable value) := by
  intro cs v rest h
  unfold inlineTable at h
  split at h
  · cases h
    exact Nodes.formed_nil.close
  · obtain ⟨⟨nodes, rest'⟩, hpairs, h⟩ := Option.map_eq_some_iff.1 h
    cases h
    exact (formed_of_pairs hvalue Nodes.formed_nil hpairs).close

theorem givesFormed_value (depth : Nat) : Reader.GivesFormed (value depth) := by
  induction depth with
  | zero => exact givesFormed_scalar
  | succ depth ih =>
    intro cs v rest h
    unfold value at h
    split at h
    · exact givesFormed_scalar h
    · next hdepth =>
      cases hdepth
      obtain ⟨⟨vs, rest'⟩, helements, h⟩ := Option.map_eq_some_iff.1 h
      cases h
      exact .array (formed_of_elements ih helements)
    · next hdepth =>
      cases hdepth
      exact givesFormed_inlineTable ih h
    · exact givesFormed_scalar h

/-! ## Documents -/

theorem Draft.Formed.line {d d' : Draft} (hd : d.Formed) {cs rest : List Char}
    (h : line d cs = some (d', rest)) : d'.Formed := by
  unfold Toml.line at h
  split at h
  · simp only [Option.bind_eq_bind, Option.bind_eq_some_iff, Prod.exists] at h
    obtain ⟨key, _, -, d', hstart, h⟩ := h
    cases h
    exact hd.startElement hstart
  · simp only [Option.bind_eq_bind, Option.bind_eq_some_iff, Prod.exists] at h
    obtain ⟨key, _, -, d', hstart, h⟩ := h
    cases h
    exact hd.startTable hstart
  · split at h
    · obtain ⟨rest', -, h⟩ := Option.map_eq_some_iff.1 h
      cases h
      exact hd
    · simp only [Option.bind_eq_bind, Option.bind_eq_some_iff, Prod.exists] at h
      obtain ⟨key, v, _, hpair, d', hinsert, _, -, h⟩ := h
      cases h
      exact hd.insert (formed_of_keyValue (givesFormed_value _) hpair) hinsert
  · cases h
    exact hd

theorem Draft.Formed.lines {d d' : Draft} (hd : d.Formed) {cs : List Char}
    (h : lines d cs = some d') : d'.Formed := by
  fun_induction Toml.lines d cs with
  | case1 =>
    cases h
    exact hd
  | case3 _ _ _ _ _ _ hline ih => exact ih (hd.line hline) h
  | _ => cases h

theorem formed_of_read {document : String} {table : Table} (h : read document = some table) :
    (Value.table table).Formed := by
  unfold read at h
  obtain ⟨d, hlines, h⟩ := Option.bind_eq_some_iff.1 h
  obtain ⟨nodes, hfinish, rfl⟩ := Option.map_eq_some_iff.1 h
  exact ((Draft.formed_start.lines hlines).finish hfinish).close

end Multimethod.Toml
