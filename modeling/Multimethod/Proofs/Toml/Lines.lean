import Multimethod.Toml.Document

/-! # Lines as they are written -/

namespace Multimethod

namespace Text

theorem digitChar_eq_zero_iff {d : Nat} (h : d < 10) : digitChar d = '0' ↔ d = 0 := by
  have : ∀ d : Fin 10, digitChar d.val = '0' ↔ d.val = 0 := by decide
  exact this ⟨d, h⟩

/-- Only zero begins with a zero. -/
theorem digits_eq_cons (n : Nat) : ∃ c cs, digits n = c :: cs ∧ (c = '0' → n = 0 ∧ cs = []) := by
  fun_induction digits n with
  | case1 n h => exact ⟨digitChar n, [], rfl, fun hzero => ⟨(digitChar_eq_zero_iff h).1 hzero, rfl⟩⟩
  | case2 n h ih =>
    obtain ⟨c, cs, hdigits, hzero⟩ := ih
    refine ⟨c, cs ++ [digitChar (n % 10)], by rw [hdigits, List.cons_append], fun hc => ?_⟩
    have := (hzero hc).1
    omega

end Text

namespace Toml

/-! ## Whole numbers -/

theorem ne_of_test {p : Char → Bool} {c d : Char} (hc : p c = true) (hd : p d = false) : c ≠ d := by
  rintro rfl
  rw [hd] at hc
  cases hc

section

variable {cs rest : List Char} (hcs : ∀ c ∈ cs, c.isDigit = true)

include hcs

theorem moreDigits_newline :
    moreDigits Char.isDigit (cs ++ '\n' :: rest) = some (cs, '\n' :: rest) := by
  induction cs with
  | nil => simp [moreDigits]
  | cons c cs ih =>
    obtain ⟨hc, hrest⟩ := List.forall_mem_cons.1 hcs
    have hmark : c ≠ '_' := ne_of_test hc (by decide)
    simp [moreDigits, hmark, hc, ih hrest, found]

theorem head_of_fixedDigits {count low high n : Nat} {after : List Char}
    (h : fixedDigits count low high (cs ++ '\n' :: rest) = some (n, after)) :
    ∃ c behind, after = c :: behind ∧ (c.isDigit = true ∨ c = '\n') := by
  simp only [fixedDigits] at h
  split at h
  · next hdigits =>
    cases h
    obtain ⟨hlength, hall, -⟩ := hdigits
    have hcount : count ≤ cs.length := by
      rw [← Nat.not_lt]
      intro hlong
      have hmem : '\n' ∈ (cs ++ '\n' :: rest).take count := by
        obtain ⟨k, rfl⟩ := Nat.exists_eq_add_of_lt hlong
        simp [List.take_append, Nat.add_assoc]
      exact absurd (List.all_eq_true.1 hall _ hmem) (by decide)
    rw [List.drop_append_of_le_length hcount]
    cases hdrop : cs.drop count with
    | nil => exact ⟨'\n', rest, rfl, Or.inr rfl⟩
    | cons c behind =>
      exact ⟨c, _, rfl, Or.inl (hcs c (List.mem_of_mem_drop (hdrop ▸ List.mem_cons_self)))⟩
  · cases h

theorem mark_of_fixedDigits {d : Char} (hd : d.isDigit = false) (hline : d ≠ '\n')
    {count low high n : Nat} {after : List Char}
    (h : fixedDigits count low high (cs ++ '\n' :: rest) = some (n, after)) : mark d after = none := by
  obtain ⟨c, behind, rfl, hc⟩ := head_of_fixedDigits hcs h
  have hne : c ≠ d := by
    rcases hc with hc | rfl
    · exact ne_of_test hc hd
    · exact hline.symm
  simp [mark, hne]

theorem moment_newline : moment (cs ++ '\n' :: rest) = none := by
  -- Both a date and a time have a mark behind their first digits.
  have hdate : date (cs ++ '\n' :: rest) = none := by
    unfold date
    cases h : fixedDigits 4 0 9999 (cs ++ '\n' :: rest) with
    | none => rfl
    | some r => simp [mark_of_fixedDigits hcs (d := '-') (by decide) (by decide) h]
  have htime : timeOfDay (cs ++ '\n' :: rest) = none := by
    unfold timeOfDay
    cases h : fixedDigits 2 0 23 (cs ++ '\n' :: rest) with
    | none => rfl
    | some r => simp [mark_of_fixedDigits hcs (d := ':') (by decide) (by decide) h]
  simp [moment, hdate, htime]

end

theorem wholeDigits_newline (n : Nat) (rest : List Char) :
    wholeDigits (Text.digits n ++ '\n' :: rest) = some (Text.digits n, '\n' :: rest) := by
  have hdigits := fun c => Text.isDigit_of_mem_digits (n := n) (c := c)
  obtain ⟨c, cs, hn, hzero⟩ := Text.digits_eq_cons n
  rw [hn] at hdigits ⊢
  obtain ⟨hc, hcs⟩ := List.forall_mem_cons.1 hdigits
  by_cases hfirst : c = '0'
  · obtain ⟨-, rfl⟩ := hzero hfirst
    subst hfirst
    rfl
  · simp [wholeDigits, someDigits, hfirst, hc, moreDigits_newline hcs, found]

theorem number_newline {n : Nat} (hn : n ≤ 9223372036854775807) (rest : List Char) :
    number (Text.digits n ++ '\n' :: rest) = some (.integer n, '\n' :: rest) := by
  have hwhole := wholeDigits_newline n rest
  have hafter : afterDigits false (Text.digits n) ('\n' :: rest) = some (.integer n, '\n' :: rest) := by
    have hrange : -9223372036854775808 ≤ (n : Int) ∧ (n : Int) ≤ 9223372036854775807 := by omega
    simp [afterDigits, signed, Text.ofDigits_digits, integerOf?, hrange]
  obtain ⟨c, cs, hdigits, hzero⟩ := Text.digits_eq_cons n
  have hc : c.isDigit = true := Text.isDigit_of_mem_digits (hdigits ▸ List.mem_cons_self)
  have hplus : c ≠ '+' := ne_of_test hc (by decide)
  have hminus : c ≠ '-' := ne_of_test hc (by decide)
  have hinf : c ≠ 'i' := ne_of_test hc (by decide)
  have hnan : c ≠ 'n' := ne_of_test hc (by decide)
  rw [hdigits, List.cons_append] at hwhole ⊢
  rw [hdigits] at hafter
  -- Behind a zero in front could stand the letter of another base, but here the line ends.
  by_cases hfirst : c = '0'
  · obtain ⟨-, rfl⟩ := hzero hfirst
    subst hfirst
    rw [List.nil_append] at hwhole ⊢
    simp [number, skipSign, isNegative, hwhole, hafter]
  · simp [number, skipSign, isNegative, hplus, hminus, hinf, hnan, hfirst, hwhole, hafter]

theorem scalar_newline {n : Nat} (hn : n ≤ 9223372036854775807) (rest : List Char) :
    scalar (Text.digits n ++ '\n' :: rest) = some (.integer n, '\n' :: rest) := by
  have hmoment : moment (Text.digits n ++ '\n' :: rest) = none :=
    moment_newline fun c => Text.isDigit_of_mem_digits
  have hnumber := number_newline hn rest
  obtain ⟨c, cs, hdigits, -⟩ := Text.digits_eq_cons n
  have hc : c.isDigit = true := Text.isDigit_of_mem_digits (hdigits ▸ List.mem_cons_self)
  have ht : c ≠ 't' := ne_of_test hc (by decide)
  have hf : c ≠ 'f' := ne_of_test hc (by decide)
  have hquote : c ≠ '"' := ne_of_test hc (by decide)
  have hsingle : c ≠ '\x27' := ne_of_test hc (by decide)
  rw [hdigits, List.cons_append] at hmoment hnumber ⊢
  simp [scalar, startsNumber, ht, hf, hquote, hsingle, hc, hmoment, hnumber]

/-! ## Names -/

structure Bare (name : List Char) : Prop where
  nonempty : name ≠ []
  chars : ∀ c ∈ name, isBareKeyChar c = true

namespace Bare

variable {name : List Char}

theorem of_all (hnonempty : name ≠ []) (h : name.all isBareKeyChar = true) : Bare name :=
  ⟨hnonempty, List.all_eq_true.1 h⟩

theorem exists_cons (h : Bare name) : ∃ c cs, name = c :: cs ∧ isBareKeyChar c = true := by
  obtain ⟨hnonempty, hchars⟩ := h
  cases name with
  | nil => contradiction
  | cons c cs => exact ⟨c, cs, rfl, hchars c List.mem_cons_self⟩

theorem keyName_append (h : Bare name) {c : Char} (hc : isBareKeyChar c = false) (rest : List Char) :
    keyName (name ++ c :: rest) = some (String.ofList name, c :: rest) := by
  have htake : (name ++ c :: rest).takeWhile isBareKeyChar = name := by
    rw [List.takeWhile_append_of_pos h.chars]
    simp [hc]
  have hdrop : (name ++ c :: rest).dropWhile isBareKeyChar = c :: rest := by
    rw [List.dropWhile_append_of_pos h.chars]
    simp [hc]
  obtain ⟨first, cs, rfl, hfirst⟩ := h.exists_cons
  have hquote : first ≠ '"' := ne_of_test hfirst (by decide)
  have hsingle : first ≠ '\x27' := ne_of_test hfirst (by decide)
  rw [List.cons_append] at htake hdrop ⊢
  unfold keyName
  simp [hquote, hsingle, htake, hdrop]

theorem skipBlanks_append (h : Bare name) (rest : List Char) :
    skipBlanks (name ++ rest) = name ++ rest := by
  obtain ⟨first, cs, rfl, hfirst⟩ := h.exists_cons
  have hspace : first ≠ ' ' := ne_of_test hfirst (by decide)
  have htab : first ≠ '\t' := ne_of_test hfirst (by decide)
  simp [skipBlanks, isBlank, hspace, htab]

theorem keyPath_append (h : Bare name) {c d : Char} (hc : isBareKeyChar c = false)
    {rest after : List Char} (hafter : skipBlanks (c :: rest) = d :: after) (hd : d ≠ '.') :
    keyPath (name ++ c :: rest) = some (⟨[], String.ofList name⟩, d :: after) := by
  have hnames : keyNames (name ++ c :: rest) = some ([String.ofList name], d :: after) := by
    rw [keyNames, h.skipBlanks_append, h.keyName_append hc]
    simp [hafter, hd]
  simp [keyPath, hnames, longestPath]

end Bare

/-! ## Lines -/

theorem line_of_header {d d' : Draft} {c : Char} {cs rest : List Char} {key : KeyPath} (hc : c ≠ '[')
    (hheader : header [']'] (c :: cs) = some (key, rest)) (hstart : d.startTable key = some d') :
    line d ('[' :: c :: cs) = some (d', rest) := by
  simp [line, hc, hheader, hstart]

theorem line_of_pair {d d' : Draft} {c : Char} {cs after rest : List Char} {key : KeyPath} {v : Value}
    (hc : isBareKeyChar c = true)
    (hpair : keyValue (value deepestNesting) (c :: cs) = some ((key, v), after))
    (hinsert : d.insert key v = some d') (hafter : trailing after = some rest) :
    line d (c :: cs) = some (d', rest) := by
  have hbracket : c ≠ '[' := ne_of_test hc (by decide)
  have hcomment : c ≠ '#' := ne_of_test hc (by decide)
  have hnewline : c ≠ '\n' := ne_of_test hc (by decide)
  have hreturn : c ≠ '\r' := ne_of_test hc (by decide)
  simp [line, hbracket, hcomment, hnewline, hreturn, hpair, hinsert, hafter]

theorem trailing_newline (rest : List Char) : trailing ('\n' :: rest) = some rest := by
  simp [trailing, skipBlanks, isBlank, skipComment, lineEnd, newline]

namespace Bare

variable {name : List Char} {d d' : Draft}

theorem line_header (h : Bare name) (hstart : d.startTable ⟨[], String.ofList name⟩ = some d')
    (rest : List Char) : line d ('[' :: (name ++ ']' :: '\n' :: rest)) = some (d', rest) := by
  have hheader : header [']'] (name ++ ']' :: '\n' :: rest) =
      some (⟨[], String.ofList name⟩, rest) := by
    have hkey : keyPath (name ++ ']' :: '\n' :: rest) = some (_, ']' :: '\n' :: rest) :=
      h.keyPath_append (by decide) rfl (by decide)
    simp [header, hkey, trailing_newline]
  obtain ⟨first, cs, rfl, hfirst⟩ := h.exists_cons
  exact line_of_header (ne_of_test hfirst (by decide)) hheader hstart

theorem line_pair (h : Bare name) {text : List Char} {v : Value}
    (hvalue : ∀ rest, value deepestNesting (skipBlanks (text ++ '\n' :: rest)) = some (v, '\n' :: rest))
    (hinsert : d.insert ⟨[], String.ofList name⟩ v = some d') (rest : List Char) :
    line d (name ++ ' ' :: '=' :: ' ' :: (text ++ '\n' :: rest)) = some (d', rest) := by
  have hpair : keyValue (value deepestNesting) (name ++ ' ' :: '=' :: ' ' :: (text ++ '\n' :: rest)) =
      some ((⟨[], String.ofList name⟩, v), '\n' :: rest) := by
    have hkey : keyPath (name ++ ' ' :: '=' :: ' ' :: (text ++ '\n' :: rest)) = some (_, '=' :: _) :=
      h.keyPath_append (by decide) rfl (by decide)
    have hblank : skipBlanks (' ' :: (text ++ '\n' :: rest)) = skipBlanks (text ++ '\n' :: rest) := by
      simp [skipBlanks, isBlank]
    simp [keyValue, hkey, mark, hblank, hvalue]
  obtain ⟨first, cs, rfl, hfirst⟩ := h.exists_cons
  exact line_of_pair hfirst hpair hinsert (trailing_newline rest)

end Bare

/-! ## Values on their lines -/

theorem value_boolean (depth : Nat) (b : Bool) (rest : List Char) :
    value depth (skipBlanks ((toString b).toList ++ rest)) = some (.boolean b, rest) := by
  have htrue : (toString true).toList = ['t', 'r', 'u', 'e'] := by decide
  have hfalse : (toString false).toList = ['f', 'a', 'l', 's', 'e'] := by decide
  cases b
  · rw [hfalse]
    cases depth <;> rfl
  · rw [htrue]
    cases depth <;> rfl

theorem value_digits (depth : Nat) {n : Nat} (hn : n ≤ 9223372036854775807) (rest : List Char) :
    value depth (skipBlanks (Text.digits n ++ '\n' :: rest)) = some (.integer n, '\n' :: rest) := by
  have hscalar := scalar_newline hn rest
  obtain ⟨c, cs, hdigits, -⟩ := Text.digits_eq_cons n
  have hc : c.isDigit = true := Text.isDigit_of_mem_digits (hdigits ▸ List.mem_cons_self)
  have hspace : c ≠ ' ' := ne_of_test hc (by decide)
  have htab : c ≠ '\t' := ne_of_test hc (by decide)
  have hbracket : c ≠ '[' := ne_of_test hc (by decide)
  have hbrace : c ≠ '\x7b' := ne_of_test hc (by decide)
  rw [hdigits, List.cons_append] at hscalar ⊢
  cases depth <;> simp [skipBlanks, isBlank, hspace, htab, value, hbracket, hbrace, hscalar]

theorem lines_of_line {d d' : Draft} {cs rest : List Char} (hcs : skipBlanks cs = cs)
    (hline : line d cs = some (d', rest)) (hshort : rest.length < cs.length) :
    lines d cs = lines d' rest := by
  rw [lines, hcs]
  split
  · simp at hshort
  · simp [hline, hshort]

/-! ## One table -/

theorem startTable_start (name : String) :
    Draft.startTable {} ⟨[], name⟩ = some { place := .table ⟨[], name⟩ } := rfl

theorem Draft.insert_of_free {d : Draft} {name : String} (hfree : d.current.lookup name = none)
    (v : Value) :
    d.insert ⟨[], name⟩ v = some { d with current := d.current ++ [(name, .value v)] } := by
  simp [Draft.insert, Nodes.insert, Nodes.modify, hfree]

theorem finish_table (name : String) (current : Nodes) :
    Draft.finish { place := .table ⟨[], name⟩, current } =
      some [(name, .table .header current)] := rfl

theorem read_of_lines {document : String} {d : Draft} {nodes : Nodes} {c : Char} {cs : List Char}
    (hdocument : document.toList = c :: cs) (hc : c ≠ '\uFEFF') (hlines : lines {} (c :: cs) = some d)
    (hfinish : d.finish = some nodes) : read document = some (closeNodes nodes) := by
  unfold read
  simp [hdocument, hc, hlines, hfinish]

end Toml

end Multimethod
