import ApiReference.Text.Basic

/-!
# Searching a text for a pattern

A pattern is a text that is looked for as a whole. Where several occurrences are wanted they are
taken from left to right, and the next one is looked for behind the last.

## Main definitions

* `Text.after?`, `Text.afterAny?`: the text behind a pattern that the text starts with.
* `Text.occurs`: whether a pattern occurs in a text.
* `Text.afterFirst`: the text behind the first occurrence of a pattern.
* `Text.pieces`: what remains of a text between the occurrences of a pattern.

## Main results

* `Text.after?_eq_some_iff`: a pattern is taken off exactly where the text starts with it.
* `Text.occurs_iff`: a pattern occurs in a text exactly when it is an infix of the text.
-/

namespace ApiReference.Text

/-- The text behind a pattern that the text starts with. -/
def after? (pattern s : Text) : Option Text :=
  if pattern.isPrefixOf s then some (s.drop pattern.length) else none

/-- The text behind the first of some patterns that the text starts with. -/
def afterAny? (patterns : List Text) (s : Text) : Option Text := patterns.findSome? (after? · s)

theorem after?_eq_some_iff {pattern s rest : Text} :
    after? pattern s = some rest ↔ s = pattern ++ rest := by
  unfold after?
  split
  · rename_i h
    obtain ⟨behind, rfl⟩ := List.isPrefixOf_iff_prefix.1 h
    simp
  · rename_i h
    simp only [reduceCtorEq, false_iff]
    rintro rfl
    exact h (List.isPrefixOf_iff_prefix.2 (List.prefix_append _ _))

/-- Whether a pattern occurs in a text. -/
def occurs (pattern : Text) : Text → Bool
  | [] => pattern.isEmpty
  | c :: rest => pattern.isPrefixOf (c :: rest) || occurs pattern rest

theorem occurs_iff {pattern s : Text} : occurs pattern s ↔ pattern <:+: s := by
  induction s with
  | nil => simp [occurs]
  | cons c rest ih => simp [occurs, ih, List.infix_cons_iff]

/-- The text behind the first occurrence of a pattern, and the empty text where there is none. -/
def afterFirst (pattern : Text) : Text → Text
  | [] => []
  | c :: rest =>
    if pattern.isPrefixOf (c :: rest) then (c :: rest).drop pattern.length
    else afterFirst pattern rest

theorem afterFirst_suffix (pattern s : Text) : afterFirst pattern s <:+ s := by
  induction s with
  | nil => simp [afterFirst]
  | cons c rest ih =>
    rw [afterFirst]
    split
    · exact List.drop_suffix _ _
    · exact ih.trans (List.suffix_cons c rest)

/-- The pieces that remain of a text when every occurrence of a pattern is cut out of it. There is
one piece more than there are occurrences. -/
def pieces (pattern : Text) : Text → List Text
  | [] => [[]]
  | c :: rest =>
    if pattern.isPrefixOf (c :: rest) then [] :: pieces pattern (rest.drop (pattern.length - 1))
    else (pieces pattern rest).modifyHead (c :: ·)
termination_by s => s.length
decreasing_by
  · simp only [List.length_drop, List.length_cons]
    omega
  · simp

theorem pieces_ne_nil (pattern s : Text) : pieces pattern s ≠ [] := by
  fun_induction pieces pattern s with
  | case1 => simp
  | case2 => simp
  | case3 c rest _ ih => cases h : pieces pattern rest <;> simp_all

end ApiReference.Text
