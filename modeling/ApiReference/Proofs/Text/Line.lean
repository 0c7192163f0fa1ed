import ApiReference.Text.Basic

/-!
# The lines of a text

Lines without newlines are the lines of the text that is written from them, so that what is said of
a text line by line can be said of the lines from which it is made. The parts of a text hold none of
the separators and no other characters than those of the text.

## Main results

* `Text.lines_unlines`, `Text.lines_intercalate`: the lines of a text that is written line by line.
* `Text.separator_not_mem_of_mem_split`, `Text.subset_of_mem_split`: the characters of a part.
-/

namespace ApiReference.Text

variable {separator : Char} {s t part : Text}

/-- The first part of a text ends at the first separator. -/
theorem split_append_cons (h : separator ∉ s) (t : Text) :
    split separator (s ++ separator :: t) = s :: split separator t := by
  induction s with
  | nil => simp [split]
  | cons c s ih =>
    obtain ⟨hc, hs⟩ := not_or.1 (mt List.mem_cons.2 h)
    rw [List.cons_append, split, if_neg (Ne.symm hc), ih hs, List.modifyHead_cons]

/-- Behind the newline of the last line there is an empty line. -/
theorem lines_unlines {ls : List Text} (h : ∀ line ∈ ls, '\n' ∉ line) :
    lines (unlines ls) = ls ++ [[]] := by
  induction ls with
  | nil => rfl
  | cons line ls ih =>
    obtain ⟨hline, hls⟩ := List.forall_mem_cons.1 h
    have hcons : unlines (line :: ls) = line ++ '\n' :: unlines ls := by simp [unlines]
    rw [lines, hcons, split_append_cons hline]
    exact congrArg (line :: ·) (ih hls)

/-- The parts of a text are those into which lists are split. -/
theorem split_eq_splitOn (separator : Char) (s : Text) :
    split separator s = s.splitOn separator := by
  rw [List.splitOn_eq_splitOnP]
  induction s with
  | nil => rfl
  | cons c s ih => simp [split, List.splitOnP_cons_eq_if_modifyHead, ih]

/-- Lines that are joined by newlines. A text has a line even when it is empty. -/
theorem lines_intercalate {ls : List Text} (h : ∀ line ∈ ls, '\n' ∉ line) (hls : ls ≠ []) :
    lines (List.intercalate ['\n'] ls) = ls := by
  rw [lines, split_eq_splitOn]
  exact List.splitOn_intercalate '\n' h hls

/-- The parts behind the first character, which may go on the first of the other parts. -/
theorem mem_split_cons {c : Char} (h : part ∈ split separator (c :: s)) :
    part = [] ∨ part ∈ split separator s ∨
      c ≠ separator ∧ ∃ first ∈ split separator s, part = c :: first := by
  rw [split] at h
  split at h
  · exact (List.mem_cons.1 h).imp id .inl
  · rename_i hc
    cases hparts : split separator s with
    | nil => exact absurd hparts (split_ne_nil separator s)
    | cons first others =>
      rw [hparts, List.modifyHead_cons] at h
      rcases List.mem_cons.1 h with rfl | h
      · exact .inr (.inr ⟨hc, first, List.mem_cons_self, rfl⟩)
      · exact .inr (.inl (List.mem_cons_of_mem first h))

theorem separator_not_mem_of_mem_split (h : part ∈ split separator s) : separator ∉ part := by
  induction s generalizing part with
  | nil =>
    rw [List.mem_singleton.1 h]
    exact List.not_mem_nil
  | cons c s ih =>
    rcases mem_split_cons h with rfl | h | ⟨hc, first, hfirst, rfl⟩
    · exact List.not_mem_nil
    · exact ih h
    · exact List.not_mem_cons_of_ne_of_not_mem (Ne.symm hc) (ih hfirst)

theorem subset_of_mem_split (h : part ∈ split separator s) : part ⊆ s := by
  induction s generalizing part with
  | nil =>
    rw [List.mem_singleton.1 h]
    exact List.nil_subset []
  | cons c s ih =>
    rcases mem_split_cons h with rfl | h | ⟨-, first, hfirst, rfl⟩
    · exact List.nil_subset _
    · exact List.subset_cons_of_subset c (ih h)
    · exact List.cons_subset_cons c (ih hfirst)

theorem newline_not_mem_of_mem_lines {line : Text} (h : line ∈ lines s) : '\n' ∉ line :=
  separator_not_mem_of_mem_split h

/-- A character that is in no part and not in what joins the parts. -/
theorem not_mem_intercalate {c : Char} {parts : List Text} (ht : c ∉ t)
    (h : ∀ part ∈ parts, c ∉ part) : c ∉ List.intercalate t parts := by
  induction parts with
  | nil => exact List.not_mem_nil
  | cons part parts ih =>
    obtain ⟨hpart, hparts⟩ := List.forall_mem_cons.1 h
    cases parts with
    | nil => simpa [List.intercalate] using hpart
    | cons next others =>
      rw [List.intercalate_cons_cons]
      simp only [List.mem_append, not_or]
      exact ⟨⟨hpart, ht⟩, ih hparts⟩

theorem trim_subset (s : Text) : trim s ⊆ s := by
  intro c hc
  have hstart := (List.dropWhile_sublist _).mem (List.mem_reverse.1 hc)
  exact (List.dropWhile_sublist _).mem (List.mem_reverse.1 hstart)

end ApiReference.Text
