import ApiReference.Proofs.Output.WrappedLine
import ApiReference.Proofs.Text.Run

/-!
# Blank lines of a wrapped text

A blank line of a text is one blank line of the wrapped text. The other lines should give no blank
line, and they give none behind their first break, where the rest of the line has been trimmed. But
the line itself is wrapped with its indentation. When the indentation has at least two characters
and the first word behind it does not fit, the last white space that the width allows is in the
indentation. The part before it is blank, and makes a blank line. This is the only way for wrapping
to make one.

## Main definitions

* `indentation`, `firstWord`: what a line starts with.
* `overhangs`: a line whose first break is in its indentation.

## Main results

* `exists_isBlank_take_iff`: the lines with a break in their indentation are those that overhang.
* `countP_isBlank_wrapLine`: the blank lines that come out of one line.
* `countP_isBlank_wrap`: the blank lines of a wrapped text.
-/

namespace ApiReference.Output

open Text

variable {width i : Nat} {line piece s t blanks word behind : Text}

/-! ### Indentation -/

/-- The white space at the start of a line. -/
def indentation (line : Text) : Text := line.takeWhile Unicode.isBlank

/-- The first word of a line. -/
def firstWord (line : Text) : Text := (trimStart line).takeWhile (!Unicode.isBlank ·)

/-- Whether a line that is not blank is indented by more than one character and has its first word
end behind the width. -/
def overhangs (width : Nat) (line : Text) : Bool :=
  !Text.isBlank line && 2 ≤ (indentation line).length &&
    width < (indentation line).length + (firstWord line).length

/-- A line that is not blank is its indentation and its first word, and white space may follow. -/
theorem exists_line_eq (h : Text.isBlank line = false) :
    ∃ behind, line = indentation line ++ (firstWord line ++ behind) ∧ firstWord line ≠ [] ∧
      ∀ c ∈ behind.head?, Unicode.isBlank c := by
  refine ⟨(trimStart line).dropWhile (!Unicode.isBlank ·), ?_, ?_, ?_⟩
  · rw [firstWord, List.takeWhile_append_dropWhile]
    exact List.takeWhile_append_dropWhile.symm
  · have hnot := List.head?_dropWhile_not Unicode.isBlank line
    rw [← isBlank_trimStart] at h
    cases hrest : trimStart line with
    | nil => simp [hrest, Text.isBlank] at h
    | cons c rest =>
      rw [← trimStart, hrest] at hnot
      simp_all [firstWord]
  · intro c hc
    have hnot := List.head?_dropWhile_not (!Unicode.isBlank ·) (trimStart line)
    rw [Option.mem_def] at hc
    simpa [hc] using hnot

/-! ### The place for a break in an indented line -/

theorem hasBlankAt_append_left (h : i < s.length) (t : Text) :
    hasBlankAt (s ++ t) i = hasBlankAt s i := by
  rw [hasBlankAt, List.getElem?_append_left h, hasBlankAt]

theorem hasBlankAt_append_right (h : s.length ≤ i) (t : Text) :
    hasBlankAt (s ++ t) i = hasBlankAt t (i - s.length) := by
  rw [hasBlankAt, List.getElem?_append_right h, hasBlankAt]

theorem hasBlankAt_of_blank (hs : ∀ c ∈ s, Unicode.isBlank c) (h : i < s.length) :
    hasBlankAt s i := by
  rw [hasBlankAt, List.getElem?_eq_getElem h]
  exact hs _ (List.getElem_mem h)

theorem hasBlankAt_eq_false (hs : ∀ c ∈ s, Unicode.isBlank c = false) (i : Nat) :
    hasBlankAt s i = false := by
  rw [hasBlankAt, Option.any_eq_false]
  exact fun c hc ↦ Bool.not_eq_true _ ▸ hs c (List.mem_of_getElem? hc)

/-- The break of a long line is in its indentation when the indentation has room for a break and the
first word does not fit. -/
theorem exists_breakPosition?_le_iff (hblanks : ∀ c ∈ blanks, Unicode.isBlank c)
    (hword : ∀ c ∈ word, Unicode.isBlank c = false) (hne : word ≠ [])
    (hbehind : ∀ c ∈ behind.head?, Unicode.isBlank c) (hwidth : 1 ≤ width)
    (hlong : width < (blanks ++ (word ++ behind)).length) :
    (∃ i, breakPosition? width (blanks ++ (word ++ behind)) = some i ∧ i ≤ blanks.length) ↔
      2 ≤ blanks.length ∧ width < blanks.length + word.length := by
  have hindented : ∀ j < blanks.length, hasBlankAt (blanks ++ (word ++ behind)) j := fun j hj ↦ by
    rw [hasBlankAt_append_left hj]
    exact hasBlankAt_of_blank hblanks hj
  have hinside : ∀ j, blanks.length ≤ j → j < blanks.length + word.length →
      hasBlankAt (blanks ++ (word ++ behind)) j = false := fun j hle hlt ↦ by
    rw [hasBlankAt_append_right hle, hasBlankAt_append_left (by omega)]
    exact hasBlankAt_eq_false hword _
  have hpos := List.length_pos_iff.2 hne
  simp only [breakPosition?_eq_some_iff]
  constructor
  · rintro ⟨i, ⟨hi, hle, hblank, hlast⟩, hindent⟩
    have hlt : i < blanks.length := by
      refine Nat.lt_of_le_of_ne hindent fun heq ↦ ?_
      rw [heq, hinside _ (Nat.le_refl _) (by omega)] at hblank
      cases hblank
    refine ⟨by omega, Nat.lt_of_not_le fun hfits ↦ ?_⟩
    -- The white space behind a first word that fits would be a later place for the break.
    have hend := hlast (blanks.length + word.length) (by omega) hfits
    rw [hasBlankAt_append_right (by omega), hasBlankAt_append_right (by omega)] at hend
    cases behind with
    | nil =>
      simp only [List.length_append, List.length_nil] at hlong
      omega
    | cons c behind =>
      have hc := hbehind c rfl
      simp [hasBlankAt, hc] at hend
  · rintro ⟨hindent, hwide⟩
    -- The break is at the width or at the last character of the indentation.
    refine ⟨min width (blanks.length - 1), ⟨by omega, by omega, hindented _ (by omega), ?_⟩,
      by omega⟩
    exact fun j hj hjwidth ↦ hinside j (by omega) (by omega)

/-- What is cut off before a break is blank when it does not reach the first word. -/
theorem isBlank_take_iff (hblanks : ∀ c ∈ blanks, Unicode.isBlank c)
    (hword : ∀ c ∈ word, Unicode.isBlank c = false) (hne : word ≠ []) :
    Text.isBlank ((blanks ++ (word ++ behind)).take i) ↔ i ≤ blanks.length := by
  rw [List.take_append, Text.isBlank, List.all_append, Bool.and_eq_true, List.all_eq_true,
    List.all_eq_true]
  obtain ⟨c, word, rfl⟩ := List.exists_cons_of_ne_nil hne
  constructor
  · rintro ⟨-, hrest⟩
    refine Nat.le_of_not_lt fun hlt ↦ ?_
    have hmem : c ∈ (c :: word ++ behind).take (i - blanks.length) := by
      obtain ⟨j, hj⟩ := Nat.exists_eq_add_of_lt (Nat.sub_pos_of_lt hlt)
      simp [hj]
    simpa [hword c List.mem_cons_self] using hrest c hmem
  · intro hle
    refine ⟨fun d hd ↦ hblanks d (List.mem_of_mem_take hd), ?_⟩
    simp [Nat.sub_eq_zero_of_le hle]

/-- The lines with a blank part before their break are those that overhang. -/
theorem exists_isBlank_take_iff (hwidth : 1 ≤ width) (hline : Text.isBlank line = false) :
    (width < line.length ∧ ∃ i, breakPosition? width line = some i ∧ Text.isBlank (line.take i)) ↔
      overhangs width line := by
  obtain ⟨behind, heq, hne, hbehind⟩ := exists_line_eq hline
  have hblanks : ∀ c ∈ indentation line, Unicode.isBlank c :=
    List.all_eq_true.1 List.all_takeWhile
  have hword : ∀ c ∈ firstWord line, Unicode.isBlank c = false := fun c hc ↦ by
    simpa using List.all_eq_true.1 List.all_takeWhile c hc
  have hoverhangs : overhangs width line ↔ 2 ≤ (indentation line).length ∧
      width < (indentation line).length + (firstWord line).length := by
    simp [overhangs, hline]
  rw [hoverhangs]
  generalize indentation line = blanks at heq hblanks ⊢
  generalize firstWord line = word at heq hne hword ⊢
  subst heq
  simp only [isBlank_take_iff hblanks hword hne]
  constructor
  · rintro ⟨hlong, hbreak⟩
    exact (exists_breakPosition?_le_iff hblanks hword hne hbehind hwidth hlong).1 hbreak
  · intro h
    have hlong : width < (blanks ++ (word ++ behind)).length := by
      simp only [List.length_append]
      omega
    exact ⟨hlong, (exists_breakPosition?_le_iff hblanks hword hne hbehind hwidth hlong).2 h⟩

/-! ### Blank lines -/

theorem isBlank_eq_false_of_head? (hne : s ≠ []) (hs : ∀ c ∈ s.head?, Unicode.isBlank c = false) :
    Text.isBlank s = false := by
  obtain ⟨c, rest, rfl⟩ := List.exists_cons_of_ne_nil hne
  simp [Text.isBlank, hs c rfl]

/-- A line that starts with a word gives no blank line: what is cut off has the start of the word,
and the rest is trimmed, so that it starts with a word too. -/
theorem isBlank_eq_false_of_mem_wrapLine (hne : line ≠ [])
    (hline : ∀ c ∈ line.head?, Unicode.isBlank c = false) (h : piece ∈ wrapLine width line) :
    Text.isBlank piece = false := by
  fun_induction wrapLine width line with
  | case1 line =>
    rw [List.mem_singleton.1 h]
    exact isBlank_eq_false_of_head? hne hline
  | case2 line =>
    rw [List.mem_singleton.1 h]
    exact isBlank_eq_false_of_head? hne hline
  | case3 line _ i hi rest ih =>
    rcases List.mem_cons.1 h with rfl | h
    · obtain ⟨hpos, -⟩ := bounds_of_breakPosition? hi
      rw [isBlank_trim]
      refine isBlank_eq_false_of_head? (by simp [hne]; omega) fun c hc ↦ hline c ?_
      rwa [List.head?_take, if_neg (by omega)] at hc
    · split at h
      · simp at h
      · rename_i hrest
        exact ih (mt List.isEmpty_iff.2 hrest) (isTrimmed_trim _).start h

theorem countP_isBlank_eq_zero (hne : line ≠ [])
    (hline : ∀ c ∈ line.head?, Unicode.isBlank c = false) :
    (wrapLine width line).countP Text.isBlank = 0 :=
  List.countP_eq_zero.2 fun _ hpiece ↦
    Bool.eq_false_iff.1 (isBlank_eq_false_of_mem_wrapLine hne hline hpiece)

/-- A blank line gives one blank line, and a line that overhangs gives one too. -/
theorem countP_isBlank_wrapLine (hwidth : 1 ≤ width) (line : Text) :
    (wrapLine width line).countP Text.isBlank =
      (if Text.isBlank line then 1 else 0) + if overhangs width line then 1 else 0 := by
  have hoverhangs : overhangs width line ↔ Text.isBlank line = false ∧ width < line.length ∧
      ∃ i, breakPosition? width line = some i ∧ Text.isBlank (line.take i) := by
    cases hline : Text.isBlank line with
    | true => simp [overhangs, hline]
    | false => simp [exists_isBlank_take_iff hwidth hline]
  fun_cases wrapLine width line with
  | case1 hshort =>
    have hnot : ¬ overhangs width line := fun h ↦ absurd (hoverhangs.1 h).2.1 (by omega)
    rw [if_neg hnot, List.countP_singleton, Nat.add_zero]
  | case2 _ hnone =>
    have hnot : ¬ overhangs width line := fun h ↦ by
      obtain ⟨-, -, i, hi, -⟩ := hoverhangs.1 h
      simp [hnone] at hi
    rw [if_neg hnot, List.countP_singleton, Nat.add_zero]
  | case3 hlong i hi rest =>
    have hrest : (if rest.isEmpty then [] else wrapLine width rest).countP Text.isBlank = 0 := by
      split
      · rfl
      · rename_i hne
        exact countP_isBlank_eq_zero (mt List.isEmpty_iff.2 hne) (isTrimmed_trim _).start
    rw [List.countP_cons, hrest, isBlank_trim, Nat.zero_add]
    cases hline : Text.isBlank line with
    | true =>
      have htake : Text.isBlank (line.take i) :=
        List.all_eq_true.2 fun c hc ↦ List.all_eq_true.1 hline c (List.mem_of_mem_take hc)
      simp [hoverhangs, hline, htake]
    | false =>
      simp [hoverhangs, hline, hi, Nat.lt_of_not_le hlong]

/-- A line that is not blank gives no blank line unless it is indented by more than one character
and its first word ends behind the width. Then it gives one, which is the only way in which a
wrapped text gets more blank lines than the text has. -/
theorem countP_isBlank_wrap {width : Nat} (hwidth : 1 ≤ width) (text : Text) :
    (∀ line ∈ lines text, Text.isBlank line = false →
      ((∀ piece ∈ wrapLine width line, Text.isBlank piece = false) ↔
        overhangs width line = false)) ∧
    (wrap width text).countP Text.isBlank =
      (lines text).countP Text.isBlank + (lines text).countP (overhangs width) := by
  constructor
  · intro line _ hline
    have hnone : (∀ piece ∈ wrapLine width line, Text.isBlank piece = false) ↔
        (wrapLine width line).countP Text.isBlank = 0 := by
      simp [List.countP_eq_zero]
    rw [hnone, countP_isBlank_wrapLine hwidth, hline]
    cases overhangs width line <;> simp
  · rw [wrap]
    induction lines text with
    | nil => rfl
    | cons line ls ih =>
      rw [List.flatMap_cons, List.countP_append, countP_isBlank_wrapLine hwidth, ih,
        List.countP_cons, List.countP_cons]
      omega

/-- One of these lines overhangs, and another is blank. -/
theorem countP_isBlank_wrap_of_indented_lines :
    (wrap 4 "  abc d\n\n  ab cd").countP Text.isBlank = 2 := by
  rw [(countP_isBlank_wrap (by decide) _).2]
  decide +kernel

/-- The indentation in front of a word that does not fit is a blank line of its own. -/
theorem wrap_of_indented_word :
    Text.isBlank "  ab" = false ∧ lines "  ab" = ["  ab"] ∧
      wrap 2 "  ab" = (["", "ab"] : List Text) ∧
      (wrap 2 "  ab").countP Text.isBlank ≠ (lines "  ab").countP Text.isBlank := by
  decide +kernel

end ApiReference.Output
