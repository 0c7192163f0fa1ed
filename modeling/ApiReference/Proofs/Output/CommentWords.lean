import ApiReference.Proofs.Output.WrappedLine
import ApiReference.Proofs.Text.Word
import ApiReference.Text.Search

/-!
# The words of a comment

A comment says what its text says. Lines are broken at white space only, so wrapping keeps the words
of a text in their order, and what the lines of the comment hold behind their marks are the wrapped
lines. The positions that are looked at in search of a break are all inside the line.

## Main definitions

* `commentContent`: what a line of a comment says.

## Main results

* `findM?_eq_breakPosition?`: the search for a break never leaves a line that is too long.
* `words_wrap`: wrapping loses no word.
* `words_comment`: a comment has the words of its text.
-/

namespace ApiReference.Output

open Text

/-- What a line of a comment says: what is behind the spaces, the mark and one more space, if there
is one. -/
def commentContent (indent : Nat) (line : Text) : Text :=
  let rest := line.drop (indent + 2)
  (after? " " rest).getD rest

variable {width indent i : Nat} {line text : Text}

/-! ### Breaks -/

/-- The search for a break looks at the positions from the width down to 1. In a line that is longer
than the width all of them are there. -/
theorem findM?_eq_breakPosition? {s : Text} (h : width < s.length) :
    ((List.range' 1 width).reverse.findM? fun i ↦ s[i]?.map Unicode.isBlank) =
      some (breakPosition? width s) := by
  induction width with
  | zero => rw [breakPosition?_zero]; rfl
  | succ width ih =>
    have hlast : s[width + 1]? = some s[width + 1] := List.getElem?_eq_getElem h
    rw [List.range'_1_concat, List.reverse_append, List.reverse_singleton, List.singleton_append,
      List.findM?, Nat.add_comm 1 width, hlast, Option.map_some, Option.bind_eq_bind,
      Option.bind_some, breakPosition?_add_one, hasBlankAt, hlast, Option.any_some]
    cases Unicode.isBlank s[width + 1] with
    | true => rfl
    | false => exact ih (by omega)

/-- At the place for a break the rest of the line starts with white space. -/
theorem isBlank_of_breakPosition? (h : breakPosition? width line = some i) :
    ∀ c ∈ (line.drop i).head?, Unicode.isBlank c := by
  obtain ⟨-, -, hblank, -⟩ := breakPosition?_eq_some_iff.1 h
  intro c hc
  rw [List.head?_drop, Option.mem_def] at hc
  rwa [hasBlankAt, hc, Option.any_some] at hblank

/-! ### Wrapping -/

/-- Wrapping a line loses no word of it. -/
theorem words_wrapLine (width : Nat) (line : Text) :
    (wrapLine width line).flatMap words = words line := by
  fun_induction wrapLine width line with
  | case1 line => exact List.flatMap_singleton _ _
  | case2 line => exact List.flatMap_singleton _ _
  | case3 line _ i hi rest ih =>
    have hrest : (if rest.isEmpty then [] else wrapLine width rest).flatMap words =
        words (line.drop i) := by
      rw [← words_trim]
      split
      · rename_i hempty
        exact (congrArg words (List.isEmpty_iff.1 hempty)).symm
      · exact ih
    calc (trim (line.take i) :: if rest.isEmpty then [] else wrapLine width rest).flatMap words
        = words (line.take i) ++ words (line.drop i) := by
          rw [List.flatMap_cons, words_trim, hrest]
      _ = words (line.take i ++ line.drop i) :=
          (words_append_of_head? (isBlank_of_breakPosition? hi) _).symm
      _ = words line := by rw [List.take_append_drop]

/-- Wrapping a text loses no word of it. -/
theorem words_wrap (width : Nat) (text : Text) : (wrap width text).flatMap words = words text := by
  rw [wrap, List.flatMap_assoc, words_eq_flatMap_lines]
  exact List.flatMap_congr fun line _ ↦ words_wrapLine width line

/-! ### Comments -/

theorem commentMark_prefix_commentLine (indent : Nat) (line : Text) :
    List.replicate indent ' ' ++ ("//" : Text) <+: commentLine indent line := by
  rw [commentLine]
  exact ⟨_, List.append_assoc _ _ _⟩

/-- A line of a comment says what was written into it. -/
theorem commentContent_commentLine (indent : Nat) (line : Text) :
    commentContent indent (commentLine indent line) = line := by
  have hdrop : (commentLine indent line).drop (indent + 2) =
      if line.isEmpty then [] else ' ' :: line := by
    rw [commentLine, List.drop_append]
    simp
  rw [commentContent, hdrop]
  cases line with
  | nil => rfl
  | cons c line =>
    have hspace : after? " " (' ' :: c :: line) = some (c :: line) := after?_eq_some_iff.2 rfl
    exact congrArg (Option.getD · _) hspace

/-- The lines of a comment, unless its text is blank, are the lines of the wrapped text. -/
theorem lines_comment (h : isBlank text = false) :
    lines (List.intercalate ['\n'] (comment indent width text)) =
      (wrap width text).map (commentLine indent) := by
  rw [comment, if_neg (by simp [h])]
  refine lines_intercalate (List.forall_mem_map.2 fun line hline ↦ ?_)
    (mt List.map_eq_nil_iff.1 (wrap_ne_nil width text))
  exact newline_not_mem_commentLine (newline_not_mem_of_mem_wrap hline)

theorem commentMark_prefix_of_mem_lines (h : isBlank text = false)
    (hline : line ∈ lines (List.intercalate ['\n'] (comment indent width text))) :
    List.replicate indent ' ' ++ ("//" : Text) <+: line := by
  rw [lines_comment h] at hline
  obtain ⟨piece, -, rfl⟩ := List.mem_map.1 hline
  exact commentMark_prefix_commentLine indent piece

/-- Only a blank text has no comment. -/
theorem comment_eq_nil_iff :
    List.intercalate ['\n'] (comment indent width text) = [] ↔ isBlank text := by
  cases h : isBlank text with
  | true => simp [comment, h]
  | false =>
    refine iff_of_false (fun hempty ↦ ?_) Bool.false_ne_true
    -- An empty text has one line, which is empty and so has no mark.
    have hline : [] ∈ lines (List.intercalate ['\n'] (comment indent width text)) := by
      rw [hempty]
      exact List.mem_singleton_self _
    simpa using List.prefix_nil.1 (commentMark_prefix_of_mem_lines h hline)

/-- A comment is empty when its text is blank. Otherwise each of its lines starts with the spaces
and the mark, and what the lines say has the words of the text in their order. The search for a
break stays inside the line, and so does the break. -/
theorem words_comment (indent width : Nat) (text : Text) :
    let output := List.intercalate ['\n'] (comment indent width text)
    (output = [] ↔ isBlank text) ∧
    (isBlank text = false →
      (∀ line ∈ lines output, List.replicate indent ' ' ++ ("//" : Text) <+: line) ∧
      (lines output).flatMap (fun line ↦ words (commentContent indent line)) = words text) ∧
    ∀ s : Text, width < s.length →
      ((List.range' 1 width).reverse.findM? fun i ↦ s[i]?.map Unicode.isBlank) =
        some (breakPosition? width s) ∧
      ∀ i, breakPosition? width s = some i → 1 ≤ i ∧ i < s.length := by
  intro output
  refine ⟨comment_eq_nil_iff, fun h ↦ ⟨fun line ↦ commentMark_prefix_of_mem_lines h, ?_⟩,
    fun s hlong ↦ ⟨findM?_eq_breakPosition? hlong, fun i hi ↦ ?_⟩⟩
  · calc (lines output).flatMap (fun line ↦ words (commentContent indent line))
        = (wrap width text).flatMap fun line ↦
            words (commentContent indent (commentLine indent line)) := by
          rw [lines_comment h, List.flatMap_map]
      _ = (wrap width text).flatMap words := by simp only [commentContent_commentLine]
      _ = words text := words_wrap width text
  · obtain ⟨h₁, -, h₂⟩ := bounds_of_breakPosition? hi
    exact ⟨h₁, h₂⟩

end ApiReference.Output
