import ApiReference.Output.Comment
import ApiReference.Proofs.Text.Line
import Mathlib.Data.List.Basic

/-!
# Wrapped lines

A line is broken at the last white space that the width allows, and its rest is wrapped in turn.
Each line that comes out is *settled*: it keeps to the width, or it has no white space where it
could be broken. A settled line stays as it is when it is wrapped, so nothing changes when a wrapped
text is wrapped again to the same width.

## Main definitions

* `hasBlankAt`: whether there is white space at a position of a line.
* `IsUnbreakable`, `IsSettled`: lines without a place for a break, and lines that stay as they are.

## Main results

* `breakPosition?_eq_some_iff`, `breakPosition?_eq_none_iff`: the place for a break is the last
  white space from position 1 to the width.
* `isSettled_of_mem_wrapLine`, `wrapLine_of_isSettled`: wrapping leaves settled lines, and it leaves
  settled lines alone.
* `wrap_settles`: wrapping a text again changes nothing.
-/

namespace ApiReference.Output

open Text

variable {width indent i : Nat} {line piece text : Text}

/-! ### The place for a break -/

/-- Whether there is white space at a position of a line. -/
def hasBlankAt (s : Text) (i : Nat) : Bool := s[i]?.any Unicode.isBlank

/-- A line without white space at the positions from 1 to the width. -/
def IsUnbreakable (width : Nat) (line : Text) : Prop :=
  ∀ i, 1 ≤ i → i ≤ width → hasBlankAt line i = false

theorem breakPosition?_zero (line : Text) : breakPosition? 0 line = none := by
  simp [breakPosition?]

/-- The place for a break is looked for backward from the width. -/
theorem breakPosition?_add_one (width : Nat) (line : Text) :
    breakPosition? (width + 1) line =
      if hasBlankAt line (width + 1) then some (width + 1) else breakPosition? width line := by
  induction width generalizing line with
  | zero =>
    match line with
    | [] => rfl
    | [_] => rfl
    | _ :: c :: s => simp [breakPosition?, hasBlankAt]
  | succ width ih =>
    match line with
    | [] => rfl
    | [_] => rfl
    | b :: c :: s =>
      have hnext : hasBlankAt (b :: c :: s) (width + 1 + 1) = hasBlankAt (c :: s) (width + 1) := rfl
      rw [breakPosition?, ih, breakPosition?, hnext]
      cases hasBlankAt (c :: s) (width + 1) <;> rfl

/-- The place for a break is the last white space from position 1 to the width. -/
theorem breakPosition?_eq_some_iff :
    breakPosition? width line = some i ↔
      1 ≤ i ∧ i ≤ width ∧ hasBlankAt line i ∧
        ∀ j, i < j → j ≤ width → hasBlankAt line j = false := by
  induction width with
  | zero => grind [breakPosition?_zero]
  | succ width ih =>
    rw [breakPosition?_add_one]
    cases hlast : hasBlankAt line (width + 1) with
    | true => grind
    | false => grind

/-- There is no place for a break in a line without white space there. -/
theorem breakPosition?_eq_none_iff :
    breakPosition? width line = none ↔ IsUnbreakable width line := by
  induction width with
  | zero => grind [breakPosition?_zero, IsUnbreakable]
  | succ width ih =>
    rw [breakPosition?_add_one]
    cases hlast : hasBlankAt line (width + 1) with
    | true => grind [IsUnbreakable]
    | false => grind [IsUnbreakable]

/-! ### Wrapped lines -/

/-- A line that stays as it is when it is wrapped. -/
def IsSettled (width : Nat) (line : Text) : Prop := line.length ≤ width ∨ IsUnbreakable width line

theorem wrapLine_ne_nil (width : Nat) (line : Text) : wrapLine width line ≠ [] := by
  fun_cases wrapLine width line <;> simp

theorem wrapLine_of_isSettled (h : IsSettled width line) : wrapLine width line = [line] := by
  rw [wrapLine]
  split
  · rfl
  · rename_i hlong
    split
    · rfl
    · rename_i i hi
      rw [breakPosition?_eq_none_iff.2 (h.resolve_left hlong)] at hi
      cases hi

/-- Each line that comes out of wrapping is settled: what is cut off before a break keeps to the
width, and what is left at the end is short or has no place for a break. -/
theorem isSettled_of_mem_wrapLine (h : piece ∈ wrapLine width line) : IsSettled width piece := by
  fun_induction wrapLine width line with
  | case1 line hshort =>
    rw [List.mem_singleton.1 h]
    exact .inl hshort
  | case2 line hlong hnone =>
    rw [List.mem_singleton.1 h]
    exact .inr (breakPosition?_eq_none_iff.1 hnone)
  | case3 line hlong i hi rest ih =>
    rcases List.mem_cons.1 h with rfl | h
    · obtain ⟨-, hle, -⟩ := bounds_of_breakPosition? hi
      have htrim := length_trim_le (line.take i)
      rw [List.length_take] at htrim
      exact .inl (by omega)
    · split at h
      · simp at h
      · exact ih h

/-- Wrapping brings no characters into a line. -/
theorem subset_of_mem_wrapLine (h : piece ∈ wrapLine width line) : piece ⊆ line := by
  fun_induction wrapLine width line with
  | case1 line => simp_all
  | case2 line => simp_all
  | case3 line _ i _ rest ih =>
    rcases List.mem_cons.1 h with rfl | h
    · exact List.Subset.trans (trim_subset _) (List.take_subset i line)
    · split at h
      · simp at h
      · have hrest : rest ⊆ line := List.Subset.trans (trim_subset _) (List.drop_subset i line)
        exact List.Subset.trans (ih h) hrest

/-! ### Wrapped texts -/

theorem newline_not_mem_of_mem_wrap (h : piece ∈ wrap width text) : '\n' ∉ piece := by
  obtain ⟨line, hline, hpiece⟩ := List.mem_flatMap.1 h
  exact fun hmem ↦ newline_not_mem_of_mem_lines hline (subset_of_mem_wrapLine hpiece hmem)

theorem newline_not_mem_commentLine (h : '\n' ∉ line) : '\n' ∉ commentLine indent line := by
  rw [commentLine]
  split <;> simp [h]

theorem isSettled_of_mem_wrap (h : piece ∈ wrap width text) : IsSettled width piece := by
  obtain ⟨line, -, hpiece⟩ := List.mem_flatMap.1 h
  exact isSettled_of_mem_wrapLine hpiece

theorem wrap_ne_nil (width : Nat) (text : Text) : wrap width text ≠ [] := by
  cases hlines : lines text with
  | nil => exact absurd hlines (split_ne_nil '\n' text)
  | cons line ls => simp [wrap, hlines, wrapLine_ne_nil]

/-- A text of one line is wrapped as this line. -/
theorem wrap_of_newline_not_mem (h : '\n' ∉ line) : wrap width line = wrapLine width line := by
  have hlines : lines line = [line] := by
    simpa using lines_intercalate (List.forall_mem_singleton.2 h) (List.cons_ne_nil _ _)
  rw [wrap, hlines, List.flatMap_singleton]

/-- Settled lines are the lines of the text that they are joined to, wrapped or not. -/
theorem wrap_intercalate {ls : List Text} (hls : ls ≠ []) (hnewline : ∀ line ∈ ls, '\n' ∉ line)
    (hsettled : ∀ line ∈ ls, IsSettled width line) :
    wrap width (List.intercalate ['\n'] ls) = ls := by
  calc wrap width (List.intercalate ['\n'] ls) = ls.flatMap (wrapLine width) := by
        rw [wrap, lines_intercalate hnewline hls]
    _ = ls.flatMap ([·]) :=
        List.flatMap_congr fun line hline ↦ wrapLine_of_isSettled (hsettled line hline)
    _ = ls := by simp

/-- Each line of a wrapped text keeps to the width or has no white space where it could be broken.
Each line of the text gives at least one of them, on its own, and none of them has a newline. So
nothing changes when the wrapped text is wrapped again. -/
theorem wrap_settles (width : Nat) (text : Text) :
    (∀ piece ∈ wrap width text, piece.length ≤ width ∨
      ∀ i, 1 ≤ i → i ≤ width → ∀ c ∈ piece[i]?, Unicode.isBlank c = false) ∧
    wrap width text = (lines text).flatMap (wrap width) ∧
    (∀ line ∈ lines text, wrap width line ≠ []) ∧
    (∀ piece ∈ wrap width text, '\n' ∉ piece) ∧
    wrap width (List.intercalate ['\n'] (wrap width text)) = wrap width text := by
  refine ⟨fun piece hpiece ↦ ?_, ?_, fun line _ ↦ wrap_ne_nil width line,
    fun piece ↦ newline_not_mem_of_mem_wrap, ?_⟩
  · refine (isSettled_of_mem_wrap hpiece).imp_right fun hunbreakable i h₁ h₂ c hc ↦ ?_
    simpa [hasBlankAt, Option.mem_def.1 hc] using hunbreakable i h₁ h₂
  · exact List.flatMap_congr fun line hline ↦
      (wrap_of_newline_not_mem (newline_not_mem_of_mem_lines hline)).symm
  · exact wrap_intercalate (wrap_ne_nil width text) (fun piece ↦ newline_not_mem_of_mem_wrap)
      fun piece ↦ isSettled_of_mem_wrap

end ApiReference.Output
