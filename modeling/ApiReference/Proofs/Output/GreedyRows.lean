import ApiReference.Proofs.Output.WrappedLine
import ApiReference.Proofs.Text.Word
import Mathlib.Data.List.Chain

/-!
# Rows of words

A line of words with a space between them is wrapped into rows of words. If no word is longer than
the width then no row is, and every row takes as many words as it can: the next word does not fit
behind it. There is no way to do with fewer rows, since rows that are filled one after another are
never behind any other rows that keep to the width.

## Main definitions

* `Overflows`: the first word of a row does not fit behind the row before.
* `IsFilled`: the rows into which words are filled one after another.

## Main results

* `IsFilled.length_le`: words do not go into fewer rows.
* `exists_isFilled_wrapLine`: a line of words is wrapped into filled rows.
* `wrap_unwords_greedy`: a text of words is wrapped into as few rows as possible.
-/

namespace ApiReference.Output

open Text

variable {width i : Nat} {line : Text} {ws row others next : List Text} {rows : List (List Text)}

/-- The first word of a row does not fit behind the row before: with a space between them the two
are longer than the width. -/
def Overflows (width : Nat) (row next : List Text) : Prop :=
  ∃ w ∈ next.head?, width < (unwords row ++ ' ' :: w).length

/-- Rows into which words are filled one after another. -/
structure IsFilled (width : Nat) (ws : List Text) (rows : List (List Text)) : Prop where
  flatten : rows.flatten = ws
  ne_nil : ∀ row ∈ rows, row ≠ []
  fits : ∀ row ∈ rows, (unwords row).length ≤ width
  overflows : rows.IsChain (Overflows width)

/-! ### The number of rows -/

/-- A row that overflows does not fit into another one with the word behind it. -/
theorem not_infix_of_overflows {other rest : List Text} {w : Text} (hrow : row ≠ [])
    (hoverflows : Overflows width row (w :: rest)) (hfits : (unwords other).length ≤ width) :
    ¬ row ++ [w] <:+: other := by
  intro hinfix
  obtain ⟨w', hw', hlong⟩ := hoverflows
  obtain rfl : w = w' := Option.some.inj hw'
  have hle := length_unwords_le_of_infix hinfix
  rw [unwords_append hrow (List.cons_ne_nil _ _), unwords_singleton] at hle
  omega

/-- What is left of some words behind a filled row is left of them, too, behind any other row that
keeps to the width. -/
theorem suffix_of_overflows {rest rest' other : List Text} (hrow : row ≠ [])
    (hoverflows : Overflows width row rest) (hfits : (unwords other).length ≤ width)
    (hsuffix : row ++ rest <:+ other ++ rest') : rest <:+ rest' := by
  rcases List.suffix_or_suffix_of_suffix ((List.suffix_append row rest).trans hsuffix)
    (List.suffix_append other rest') with hrest | ⟨gap, rfl⟩
  · exact hrest
  cases gap with
  | nil => exact List.suffix_refl _
  | cons w gap =>
    -- The other row would hold the filled one and the word behind it.
    have hother : row ++ w :: gap <:+ other := by
      rw [← List.append_assoc] at hsuffix
      exact List.suffix_append_self_iff.1 hsuffix
    refine absurd ?_ (not_infix_of_overflows hrow hoverflows hfits)
    have hprefix : row ++ [w] <+: row ++ w :: gap := ⟨gap, by simp⟩
    exact hprefix.isInfix.trans hother.isInfix

/-- Words do not go into fewer rows than those into which they are filled one after another. This
holds even if the other rows have more words before them. -/
theorem length_le_of_isChain_overflows {others : List (List Text)} (hne : ∀ row ∈ rows, row ≠ [])
    (hoverflows : rows.IsChain (Overflows width))
    (hfits : ∀ row ∈ others, (unwords row).length ≤ width)
    (hsuffix : rows.flatten <:+ others.flatten) : rows.length ≤ others.length := by
  -- By induction on the other rows: behind a row on either side the words that are left of the
  -- filled ones are still the last of the words that are left of the others.
  induction others generalizing rows with
  | nil =>
    have hempty := List.flatten_eq_nil_iff.1 (List.suffix_nil.1 hsuffix)
    cases rows with
    | nil => exact Nat.le_refl 0
    | cons row rows => exact absurd (hempty row List.mem_cons_self) (hne row List.mem_cons_self)
  | cons other others ih =>
    obtain ⟨hother, hothers⟩ := List.forall_mem_cons.1 hfits
    match rows with
    | [] => exact Nat.zero_le _
    | [_] => simp
    | row :: next :: rows =>
      obtain ⟨hrow, hrows⟩ := List.forall_mem_cons.1 hne
      obtain ⟨⟨w, hw, hlong⟩, hchain⟩ := List.isChain_cons_cons.1 hoverflows
      have hrest : Overflows width row (next :: rows).flatten :=
        ⟨w, by simp [List.head?_append, Option.mem_def.1 hw], hlong⟩
      have hle := ih hrows hchain hothers (suffix_of_overflows hrow hrest hother hsuffix)
      exact Nat.succ_le_succ hle

/-- Words do not go into fewer rows of a width than those into which they are filled. -/
theorem IsFilled.length_le {others : List (List Text)} (h : IsFilled width ws rows)
    (hothers : others.flatten = ws) (hfits : ∀ row ∈ others, (unwords row).length ≤ width) :
    rows.length ≤ others.length := by
  have hflatten : rows.flatten = others.flatten := h.flatten.trans hothers.symm
  exact length_le_of_isChain_overflows h.ne_nil h.overflows hfits (hflatten ▸ List.suffix_refl _)

/-- A row is put before filled ones when their first word does not fit behind it. -/
theorem IsFilled.cons (h : IsFilled width ws rows) (hrow : row ≠ [])
    (hfits : (unwords row).length ≤ width) (hoverflows : Overflows width row ws) :
    IsFilled width (row ++ ws) (row :: rows) where
  flatten := by rw [List.flatten_cons, h.flatten]
  ne_nil := List.forall_mem_cons.2 ⟨hrow, h.ne_nil⟩
  fits := List.forall_mem_cons.2 ⟨hfits, h.fits⟩
  overflows := by
    refine h.overflows.cons fun next hnext ↦ ?_
    obtain ⟨rest, rfl⟩ := List.head?_eq_some_iff.1 hnext
    obtain ⟨w, hw, hlong⟩ := hoverflows
    have hne := h.ne_nil next List.mem_cons_self
    rw [← h.flatten, List.flatten_cons, List.head?_append_of_ne_nil _ hne] at hw
    exact ⟨w, hw, hlong⟩

/-! ### The rows of a wrapped line -/

/-- There is white space where a row of words ends. -/
theorem hasBlankAt_unwords_append (hrow : row ≠ []) (hothers : others ≠ []) :
    hasBlankAt (unwords (row ++ others)) (unwords row).length := by
  rw [unwords_append hrow hothers, hasBlankAt, List.getElem?_append_right (Nat.le_refl _),
    Nat.sub_self]
  rfl

/-- A line of words that goes beyond the width has a place for a break, as the first word does
not. -/
theorem breakPosition?_unwords_ne_none (h : ∀ w ∈ ws, IsWord w ∧ w.length ≤ width)
    (hlong : width < (unwords ws).length) : breakPosition? width (unwords ws) ≠ none := by
  intro hnone
  cases ws with
  | nil => simp [unwords] at hlong
  | cons w ws =>
    obtain ⟨hw, hle⟩ := h w List.mem_cons_self
    rcases eq_or_ne ws [] with rfl | hws
    · rw [unwords_singleton] at hlong
      omega
    · have hblank := hasBlankAt_unwords_append (List.cons_ne_nil w []) hws
      rw [unwords_singleton, List.singleton_append] at hblank
      have hpos := List.length_pos_iff.2 hw.1
      rw [breakPosition?_eq_none_iff.1 hnone w.length hpos hle] at hblank
      cases hblank

/-- Where a line of words is broken into rows, the first row overflows. -/
theorem overflows_of_breakPosition? (hrow : row ≠ []) (hothers : others ≠ [])
    (hlong : width < (unwords (row ++ others)).length)
    (hbreak : breakPosition? width (unwords (row ++ others)) = some (unwords row).length) :
    Overflows width row others := by
  obtain ⟨-, -, -, hlast⟩ := breakPosition?_eq_some_iff.1 hbreak
  cases others with
  | nil => exact absurd rfl hothers
  | cons w others =>
    refine ⟨w, rfl, Nat.lt_of_not_le fun hle ↦ ?_⟩
    have hword : unwords (row ++ [w]) = unwords row ++ ' ' :: w := by
      rw [unwords_append hrow (List.cons_ne_nil _ _), unwords_singleton]
    have happend : row ++ w :: others = row ++ [w] ++ others := by simp
    rw [happend] at hlong hlast
    rw [← hword] at hle
    rcases eq_or_ne others [] with rfl | hne
    · rw [List.append_nil] at hlong
      omega
    · -- The white space behind the word would be a later place for the break.
      have hblank := hasBlankAt_unwords_append (List.append_ne_nil_of_left_ne_nil hrow [w]) hne
      rw [hlast _ (by rw [hword]; simp) hle] at hblank
      cases hblank

/-- A line of words is broken between two rows of them. -/
theorem exists_rows_of_breakPosition? (h : ∀ w ∈ ws, IsWord w)
    (hbreak : breakPosition? width (unwords ws) = some i) :
    ∃ row others, row ≠ [] ∧ others ≠ [] ∧ ws = row ++ others ∧ (unwords row).length = i ∧
      trim ((unwords ws).take i) = unwords row ∧ trim ((unwords ws).drop i) = unwords others := by
  obtain ⟨-, -, hlt⟩ := bounds_of_breakPosition? hbreak
  have hblank : Unicode.isBlank (unwords ws)[i] := by
    obtain ⟨-, -, hblank, -⟩ := breakPosition?_eq_some_iff.1 hbreak
    rwa [hasBlankAt, List.getElem?_eq_getElem hlt, Option.any_some] at hblank
  have hdrop : (unwords ws).drop i = (unwords ws)[i] :: (unwords ws).drop (i + 1) :=
    List.drop_eq_getElem_cons hlt
  have hplace :
      unwords ws = (unwords ws).take i ++ (unwords ws)[i] :: (unwords ws).drop (i + 1) := by
    rw [← hdrop, List.take_append_drop]
  obtain ⟨row, others, hrow, hothers, hws, hbefore, hbehind⟩ :=
    exists_rows_of_unwords_eq h hblank hplace
  have htrimmed : ∀ part ∈ [row, others], IsTrimmed (unwords part) := by
    intro part hpart
    refine isTrimmed_unwords fun w hw ↦ h w ?_
    simp only [List.mem_cons, List.not_mem_nil, or_false] at hpart
    rcases hpart with rfl | rfl <;> simp [hws, hw]
  refine ⟨row, others, hrow, hothers, hws, ?_, ?_, ?_⟩
  · rw [hbefore, List.length_take]
    omega
  · rw [← hbefore, trim_eq_self (htrimmed row (by simp))]
  · rw [hdrop, ← hbehind, trim_cons hblank, trim_eq_self (htrimmed others (by simp))]

/-- A line of words is wrapped into rows that are filled one after another. -/
theorem exists_isFilled_wrapLine (h : ∀ w ∈ ws, IsWord w ∧ w.length ≤ width) (hws : ws ≠ []) :
    ∃ rows, IsFilled width ws rows ∧ wrapLine width (unwords ws) = rows.map unwords := by
  generalize hline : unwords ws = line
  fun_induction wrapLine width line generalizing ws with
  | case1 line hshort =>
    subst hline
    refine ⟨[ws], ⟨by simp, by simpa using hws, by simpa using hshort, by simp⟩, by simp⟩
  | case2 line hlong hnone =>
    subst hline
    exact absurd hnone (breakPosition?_unwords_ne_none h (by omega))
  | case3 line hlong i hi rest =>
    rename_i ih
    subst hline
    obtain ⟨row, others, hrow, hothers, rfl, rfl, htake, hdrop⟩ :=
      exists_rows_of_breakPosition? (fun w hw ↦ (h w hw).1) hi
    obtain ⟨hrowWords, hotherWords⟩ := List.forall_mem_append.1 h
    have hrest : rest = unwords others := hdrop
    obtain ⟨rows, hrows, hwrap⟩ := ih hotherWords hothers hrest.symm
    have hne : ¬ rest.isEmpty := by
      rw [hrest, List.isEmpty_iff]
      exact unwords_ne_nil (fun w hw ↦ (hotherWords w hw).1) hothers
    have hfits : (unwords row).length ≤ width := (bounds_of_breakPosition? hi).2.1
    have hoverflows := overflows_of_breakPosition? hrow hothers (by omega) hi
    refine ⟨row :: rows, hrows.cons hrow hfits hoverflows, ?_⟩
    rw [htake, if_neg hne, hwrap, List.map_cons]

/-- Words that are no longer than the width, with a space between each two of them, are wrapped into
rows that are filled one after another. No other rows that keep to the width are fewer. -/
theorem wrap_unwords_greedy {width : Nat} {ws : List Text} (hws : ws ≠ [])
    (h : ∀ w ∈ ws, IsWord w ∧ w.length ≤ width) :
    ∃ rows : List (List Text), IsFilled width ws rows ∧
      wrap width (unwords ws) = rows.map unwords ∧
      ∀ others : List (List Text), others.flatten = ws →
        (∀ row ∈ others, (unwords row).length ≤ width) →
        (wrap width (unwords ws)).length ≤ others.length := by
  obtain ⟨rows, hrows, hwrap⟩ := exists_isFilled_wrapLine h hws
  have hline : '\n' ∉ unwords ws := by
    refine not_mem_intercalate (by decide) fun w hw hnewline ↦ ?_
    exact absurd ((h w hw).1.2 '\n' hnewline) (by decide)
  rw [wrap_of_newline_not_mem hline, hwrap, List.length_map]
  exact ⟨rows, hrows, rfl, fun others ↦ hrows.length_le⟩

/-- A word as long as the width has a row to itself. -/
theorem wrap_of_wide_word :
    let ws : List Text := ["aaa", "bbb", "ccccccc", "d"]
    wrap 7 (unwords ws) = (["aaa bbb", "ccccccc", "d"] : List Text) ∧
      ∀ others : List (List Text), others.flatten = ws →
        (∀ row ∈ others, (unwords row).length ≤ 7) → 3 ≤ others.length := by
  intro ws
  have hwrap : wrap 7 (unwords ws) = (["aaa bbb", "ccccccc", "d"] : List Text) := by
    decide +kernel
  have hwords : ∀ w ∈ ws, IsWord w ∧ w.length ≤ 7 := by decide +kernel
  obtain ⟨rows, -, -, hleast⟩ := wrap_unwords_greedy (by decide) hwords
  rw [hwrap] at hleast
  exact ⟨hwrap, hleast⟩

end ApiReference.Output
