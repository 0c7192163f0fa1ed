import ApiReference.Text.Search

/-!
# Occurrences that survive

A text is changed by cutting a pattern out of it and by trimming it. An occurrence of another text
survives the cutting when no occurrence of the pattern can reach into it, and it survives the
trimming up to the white space at its own ends.

## Main results

* `Text.pieces_append`, `Text.pieces_self_append`, `Text.flatten_pieces_append`: cutting a pattern
  out of a text whose start is known.
* `Text.pieces_of_not_infix`, `Text.length_pieces_eq_one_iff`: cutting a pattern out of a text in
  which it does not occur.
* `Text.trimStart_append_cons`, `Text.trimEnd_append_cons`: a character that is no white space stops
  the trimming.
-/

namespace ApiReference.Text

variable {pattern s t : Text} {c : Char}

theorem occurs_eq_false_iff : occurs pattern s = false ↔ ¬ pattern <:+: s :=
  Bool.eq_false_iff.trans (not_congr occurs_iff)

/-! ### Cutting a pattern out -/

theorem flatten_modifyHead_append {parts : List Text} (h : parts ≠ []) :
    (parts.modifyHead (s ++ ·)).flatten = s ++ parts.flatten := by
  cases parts with
  | nil => exact absurd rfl h
  | cons part parts => simp

/-- A start without the first character of the pattern belongs to the first piece. -/
theorem pieces_append (h : ∀ c ∈ s, pattern.head? ≠ some c) (hpattern : pattern ≠ []) (t : Text) :
    pieces pattern (s ++ t) = (pieces pattern t).modifyHead (s ++ ·) := by
  induction s with
  | nil => cases hparts : pieces pattern t <;> simp [hparts]
  | cons c s ih =>
    obtain ⟨hc, hs⟩ := List.forall_mem_cons.1 h
    have hstart : ¬ pattern.isPrefixOf (c :: (s ++ t)) := by
      cases pattern with
      | nil => exact absurd rfl hpattern
      | cons p pattern => simp_all
    rw [List.cons_append, pieces, if_neg hstart, ih hs, List.modifyHead_modifyHead]
    rfl

theorem flatten_pieces_append (h : ∀ c ∈ s, pattern.head? ≠ some c) (hpattern : pattern ≠ [])
    (t : Text) : (pieces pattern (s ++ t)).flatten = s ++ (pieces pattern t).flatten := by
  rw [pieces_append h hpattern, flatten_modifyHead_append (pieces_ne_nil pattern t)]

/-- A pattern at the start is cut out first. -/
theorem pieces_self_append (hpattern : pattern ≠ []) (t : Text) :
    pieces pattern (pattern ++ t) = [] :: pieces pattern t := by
  cases pattern with
  | nil => exact absurd rfl hpattern
  | cons p pattern =>
    have hstart : (p :: pattern).isPrefixOf (p :: (pattern ++ t)) :=
      List.isPrefixOf_iff_prefix.2 (List.prefix_append (p :: pattern) t)
    rw [List.cons_append, pieces, if_pos hstart, List.length_cons, Nat.add_sub_cancel,
      List.drop_left]

/-- A text in which the pattern does not occur is its own only piece. -/
theorem pieces_of_not_infix (h : ¬ pattern <:+: s) : pieces pattern s = [s] := by
  induction s with
  | nil => rw [pieces]
  | cons c s ih =>
    obtain ⟨hstart, hrest⟩ := not_or.1 (mt List.infix_cons_iff.2 h)
    rw [pieces, if_neg (mt List.isPrefixOf_iff_prefix.1 hstart), ih hrest, List.modifyHead_cons]

/-- There is one piece only exactly when the pattern does not occur. -/
theorem length_pieces_eq_one_iff (hpattern : pattern ≠ []) :
    (pieces pattern s).length = 1 ↔ ¬ pattern <:+: s := by
  fun_induction pieces pattern s with
  | case1 => simp [hpattern]
  | case2 c rest hstart =>
    have hpieces : 0 < (pieces pattern (rest.drop (pattern.length - 1))).length :=
      List.length_pos_iff.2 (pieces_ne_nil pattern _)
    have hinfix : pattern <:+: c :: rest := (List.isPrefixOf_iff_prefix.1 hstart).isInfix
    simp only [List.length_cons, hinfix, not_true_eq_false, iff_false]
    omega
  | case3 c rest hstart ih =>
    have hprefix : ¬ pattern <+: c :: rest := mt List.isPrefixOf_iff_prefix.2 hstart
    rw [List.length_modifyHead, ih, List.infix_cons_iff, or_iff_right hprefix]

/-! ### Trimming -/

/-- The white space at the start ends at a character that is none. -/
theorem trimStart_append_cons (hc : Unicode.isBlank c = false) :
    trimStart (s ++ c :: t) = trimStart s ++ c :: t := by
  rw [trimStart, trimStart, List.dropWhile_append, List.dropWhile_cons_of_neg (by simp [hc])]
  split <;> simp_all

/-- The white space at the end starts behind the last character that is none. -/
theorem trimEnd_append_cons (hc : Unicode.isBlank c = false) :
    trimEnd (s ++ c :: t) = s ++ c :: trimEnd t := by
  have hreverse : trimStart ((s ++ c :: t).reverse) = trimStart t.reverse ++ c :: s.reverse := by
    rw [List.reverse_append, List.reverse_cons, List.append_assoc, List.singleton_append,
      trimStart_append_cons hc]
  rw [trimEnd, ← trimStart, hreverse, trimEnd, ← trimStart]
  simp

end ApiReference.Text
