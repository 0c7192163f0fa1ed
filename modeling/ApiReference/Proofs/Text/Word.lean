import ApiReference.Proofs.Text.Line
import ApiReference.Proofs.Text.Run
import Mathlib.Data.List.Basic

/-!
# The words of a text

The words of a text are what is left of it between its white space. How much white space there is
between two words, and of which kind, makes no difference to them, and neither does white space at
the ends. So a text may be cut at white space, trimmed and put together again without the loss of a
word.

## Main definitions

* `Text.words`: the words of a text.
* `Text.IsWord`: a text that is one word.
* `Text.unwords`: the text of some words with a space between them.

## Main results

* `Text.words_append_cons`: a character of white space divides the words of a text.
* `Text.words_trim`: trimming loses no word.
* `Text.words_eq_flatMap_lines`: the words of a text are those of its lines.
* `Text.exists_rows_of_unwords_eq`: white space in a text that is written from words stands between
  two of them.
-/

namespace ApiReference.Text

/-- The words of a text: the parts between its characters of white space that are not empty. -/
def words (s : Text) : List Text := (s.splitOnP Unicode.isBlank).filter (!·.isEmpty)

/-- A text that is one word. -/
def IsWord (s : Text) : Prop := s ≠ [] ∧ ∀ c ∈ s, Unicode.isBlank c = false

/-- The text of some words with a space between each two of them. -/
def unwords (ws : List Text) : Text := List.intercalate [' '] ws

variable {s t : Text} {c : Char} {ws : List Text}

instance (s : Text) : Decidable s.IsWord :=
  decidable_of_iff (s ≠ [] ∧ s.all (!Unicode.isBlank ·)) (by simp [IsWord])

/-! ### Words and white space -/

@[simp] theorem words_nil : words [] = [] := rfl

/-- White space divides the words of a text. -/
theorem words_append_cons (hc : Unicode.isBlank c) (s t : Text) :
    words (s ++ c :: t) = words s ++ words t := by
  rw [words, List.splitOnP_append_cons s t hc, List.filter_append, words, words]

theorem words_cons (hc : Unicode.isBlank c) (s : Text) : words (c :: s) = words s :=
  words_append_cons hc [] s

/-- What starts with white space goes on with words of its own. -/
theorem words_append_of_head? (h : ∀ c ∈ t.head?, Unicode.isBlank c) (s : Text) :
    words (s ++ t) = words s ++ words t := by
  cases t with
  | nil => simp
  | cons c t =>
    have hc : Unicode.isBlank c := h c rfl
    rw [words_append_cons hc, words_cons hc]

theorem words_eq_nil (h : ∀ c ∈ s, Unicode.isBlank c) : words s = [] := by
  induction s with
  | nil => rfl
  | cons c s ih =>
    obtain ⟨hc, hs⟩ := List.forall_mem_cons.1 h
    rw [words_cons hc, ih hs]

theorem words_trimStart (s : Text) : words (trimStart s) = words s := by
  rw [trimStart]
  induction s with
  | nil => rfl
  | cons c s ih =>
    cases hc : Unicode.isBlank c with
    | true => rw [List.dropWhile_cons_of_pos hc, ih, words_cons hc]
    | false => rw [List.dropWhile_cons_of_neg (by simp [hc])]

theorem words_trimEnd (s : Text) : words (trimEnd s) = words s := by
  have hs : trimEnd s ++ (s.reverse.takeWhile Unicode.isBlank).reverse = s := by
    rw [trimEnd, ← List.reverse_append, List.takeWhile_append_dropWhile, List.reverse_reverse]
  have hblank : ∀ c ∈ (s.reverse.takeWhile Unicode.isBlank).reverse, Unicode.isBlank c :=
    fun c hc ↦ List.all_eq_true.1 List.all_takeWhile c (List.mem_reverse.1 hc)
  have hhead : ∀ c ∈ (s.reverse.takeWhile Unicode.isBlank).reverse.head?, Unicode.isBlank c :=
    fun c hc ↦ hblank c (List.mem_of_mem_head? hc)
  have hwords := words_append_of_head? hhead (trimEnd s)
  rw [hs, words_eq_nil hblank, List.append_nil] at hwords
  exact hwords.symm

/-- Trimming loses no word. -/
theorem words_trim (s : Text) : words (trim s) = words s := by
  rw [trim, words_trimEnd, words_trimStart]

/-! ### Words and lines -/

/-- Texts that are joined by white space keep their words. -/
theorem words_intercalate (hc : Unicode.isBlank c) (parts : List Text) :
    words (List.intercalate [c] parts) = parts.flatMap words := by
  induction parts with
  | nil => rfl
  | cons part parts ih =>
    cases parts with
    | nil => simp
    | cons next others =>
      rw [List.intercalate_cons_cons, List.append_assoc, List.singleton_append,
        words_append_cons hc, ih]
      rfl

/-- The words of a text are those of its lines. -/
theorem words_eq_flatMap_lines (s : Text) : words s = (lines s).flatMap words := by
  have hwords := words_intercalate (c := '\n') (by decide) (lines s)
  rwa [lines, intercalate_split] at hwords

/-! ### Texts of words -/

@[simp] theorem unwords_singleton (w : Text) : unwords [w] = w := List.intercalate_singleton

theorem unwords_cons (w : Text) (hws : ws ≠ []) : unwords (w :: ws) = w ++ ' ' :: unwords ws := by
  rw [unwords, List.intercalate_cons_of_ne_nil hws, List.append_assoc]
  rfl

/-- Between two rows of words there is a space, as there is between two words. -/
theorem unwords_append {row others : List Text} (hrow : row ≠ []) (hothers : others ≠ []) :
    unwords (row ++ others) = unwords row ++ ' ' :: unwords others := by
  induction row with
  | nil => exact absurd rfl hrow
  | cons w row ih =>
    cases row with
    | nil => rw [List.singleton_append, unwords_cons w hothers, unwords_singleton]
    | cons w' row =>
      rw [List.cons_append, unwords_cons w (by simp), ih (List.cons_ne_nil _ _),
        unwords_cons w (List.cons_ne_nil _ _), List.append_assoc, List.cons_append]

theorem length_unwords_le_append_left (row others : List Text) :
    (unwords row).length ≤ (unwords (row ++ others)).length := by
  rcases eq_or_ne row [] with rfl | hrow
  · exact Nat.zero_le _
  rcases eq_or_ne others [] with rfl | hothers
  · simp
  · rw [unwords_append hrow hothers, List.length_append]
    exact Nat.le_add_right _ _

theorem length_unwords_le_append_right (row others : List Text) :
    (unwords others).length ≤ (unwords (row ++ others)).length := by
  rcases eq_or_ne row [] with rfl | hrow
  · exact Nat.le_refl _
  rcases eq_or_ne others [] with rfl | hothers
  · exact Nat.zero_le _
  · rw [unwords_append hrow hothers, List.length_append, List.length_cons]
    omega

/-- A part of a row of words is not longer than the whole. -/
theorem length_unwords_le_of_infix {row : List Text} (h : row <:+: ws) :
    (unwords row).length ≤ (unwords ws).length := by
  obtain ⟨before, behind, rfl⟩ := h
  exact Nat.le_trans (length_unwords_le_append_right before row)
    (length_unwords_le_append_left (before ++ row) behind)

/-- White space in a text of words stands between two rows of them. -/
theorem exists_rows_of_unwords_eq {before behind : Text} (h : ∀ w ∈ ws, IsWord w)
    (hc : Unicode.isBlank c) (hws : unwords ws = before ++ c :: behind) :
    ∃ row others, row ≠ [] ∧ others ≠ [] ∧ ws = row ++ others ∧ unwords row = before ∧
      unwords others = behind := by
  induction ws generalizing before with
  | nil => simp [unwords] at hws
  | cons w ws ih =>
    obtain ⟨hw, hrest⟩ := List.forall_mem_cons.1 h
    have hnotin : c ∉ w := fun hmem ↦ by simp [hw.2 c hmem] at hc
    rcases eq_or_ne ws [] with rfl | hne
    · rw [unwords_singleton] at hws
      exact absurd (by simp [hws]) hnotin
    rw [unwords_cons w hne, List.append_eq_append_iff] at hws
    rcases hws with ⟨gap, rfl, hgap⟩ | ⟨gap, hgap, hbehind⟩
    · cases gap with
      | nil =>
        exact ⟨[w], ws, List.cons_ne_nil _ _, hne, rfl, by simp, (List.cons.inj hgap).2⟩
      | cons d gap =>
        obtain ⟨rfl, hws⟩ := List.cons.inj hgap
        obtain ⟨row, others, hrow, hothers, rfl, rfl, rfl⟩ := ih hrest hws
        exact ⟨w :: row, others, List.cons_ne_nil _ _, hothers, rfl, unwords_cons w hrow, rfl⟩
    · cases gap with
      | nil =>
        rw [List.append_nil] at hgap
        exact ⟨[w], ws, List.cons_ne_nil _ _, hne, rfl, by simp [hgap],
          (List.cons.inj hbehind).2.symm⟩
      | cons d gap =>
        obtain ⟨rfl, -⟩ := List.cons.inj hbehind
        exact absurd (by simp [hgap]) hnotin

theorem unwords_ne_nil (h : ∀ w ∈ ws, IsWord w) (hws : ws ≠ []) : unwords ws ≠ [] := by
  cases ws with
  | nil => exact absurd rfl hws
  | cons w ws =>
    have hle := length_unwords_le_append_left [w] ws
    have hw : 0 < w.length := List.length_pos_iff.2 (h w List.mem_cons_self).1
    rw [unwords_singleton] at hle
    exact List.length_pos_iff.1 (Nat.lt_of_lt_of_le hw hle)

/-- A text of words has no white space at its ends, as there would be a row without words behind
it. -/
theorem isTrimmed_unwords (h : ∀ w ∈ ws, IsWord w) : IsTrimmed (unwords ws) := by
  constructor <;> intro c hc <;> refine Bool.eq_false_iff.2 fun hblank ↦ ?_
  · obtain ⟨behind, hws⟩ := List.head?_eq_some_iff.1 hc
    rw [← List.nil_append (c :: behind)] at hws
    obtain ⟨row, others, hrow, -, rfl, hempty, -⟩ := exists_rows_of_unwords_eq h hblank hws
    exact unwords_ne_nil (List.forall_mem_append.1 h).1 hrow hempty
  · obtain ⟨before, hws⟩ := List.getLast?_eq_some_iff.1 hc
    obtain ⟨row, others, -, hothers, rfl, -, hempty⟩ := exists_rows_of_unwords_eq h hblank hws
    exact unwords_ne_nil (List.forall_mem_append.1 h).2 hothers hempty

end ApiReference.Text
