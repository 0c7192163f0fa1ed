import ApiReference.Text.Basic
import Mathlib.Data.List.TakeWhile

/-!
# Runs of characters

What is read from a text is often a run of characters of one kind. When it is known how a text was
put together, the run in it is known from the first character that stops it. A text is trimmed when
it neither starts nor ends with a run of white space.

## Main definitions

* `Text.IsTrimmed`: a text without white space at its two ends.

## Main results

* `Text.takeWhile_append_of_stop`, `Text.dropWhile_append_of_stop`: a run does not reach beyond a
  character of another kind.
* `Text.takeWhile_append_stop`, `Text.dropWhile_append_stop`: a run ends where such a character
  follows.
* `Text.takeWhile_ne_append`, `Text.dropWhile_ne_append`: a run ends at the first delimiter.
* `Text.drop_length_takeWhile`: what is behind a run, by the length of the run.
* `Text.trim_eq_self`, `Text.isTrimmed_trim`: trimming leaves a trimmed text as it is, and it leaves
  a trimmed text.
* `Text.isBlank_trim`: trimming leaves nothing of blank texts alone.
-/

namespace ApiReference.Text

variable {p : Char → Bool} {s t : Text}

/-- A character that stops a run, if there is a character at all. -/
theorem all_not_iff {c? : Option Char} : c?.all (!p ·) ↔ ∀ c ∈ c?, p c = false := by
  cases c? <;> simp

/-- What starts with a character of another kind has no part in a run before it. -/
theorem takeWhile_append_of_stop (s : Text) (ht : ∀ c ∈ t.head?, p c = false) :
    (s ++ t).takeWhile p = s.takeWhile p := by
  induction s with
  | nil =>
    cases t with
    | nil => rfl
    | cons c t => exact List.takeWhile_cons_of_neg (by simp [ht c rfl])
  | cons c s ih => by_cases hc : p c <;> simp [hc, ih]

theorem dropWhile_append_of_stop (s : Text) (ht : ∀ c ∈ t.head?, p c = false) :
    (s ++ t).dropWhile p = s.dropWhile p ++ t := by
  induction s with
  | nil =>
    cases t with
    | nil => rfl
    | cons c t => exact List.dropWhile_cons_of_neg (by simp [ht c rfl])
  | cons c s ih => by_cases hc : p c <;> simp [hc, ih]

/-- A run of characters ends where a character of another kind follows. -/
theorem takeWhile_append_stop (hs : ∀ c ∈ s, p c) (ht : ∀ c ∈ t.head?, p c = false) :
    (s ++ t).takeWhile p = s := by
  rw [takeWhile_append_of_stop s ht, List.takeWhile_eq_self_iff.2 hs]

theorem dropWhile_append_stop (hs : ∀ c ∈ s, p c) (ht : ∀ c ∈ t.head?, p c = false) :
    (s ++ t).dropWhile p = t := by
  rw [dropWhile_append_of_stop s ht, List.dropWhile_eq_nil_iff.2 hs, List.nil_append]

theorem takeWhile_ne_append {d : Char} (hs : d ∉ s) : (s ++ d :: t).takeWhile (· != d) = s :=
  takeWhile_append_stop (fun _ hc ↦ bne_iff_ne.2 (ne_of_mem_of_not_mem hc hs)) (by simp)

theorem dropWhile_ne_append {d : Char} (hs : d ∉ s) : (s ++ d :: t).dropWhile (· != d) = d :: t :=
  dropWhile_append_stop (fun _ hc ↦ bne_iff_ne.2 (ne_of_mem_of_not_mem hc hs)) (by simp)

/-- What is behind a run is what remains when as many characters are dropped as the run has. -/
theorem drop_length_takeWhile (p : Char → Bool) (s : Text) :
    s.drop (s.takeWhile p).length = s.dropWhile p := by
  induction s with
  | nil => rfl
  | cons c s ih => by_cases hc : p c <;> simp [hc, ih]

/-! ### Trimmed texts -/

/-- A text that neither starts nor ends with white space. The empty text does not. -/
structure IsTrimmed (s : Text) : Prop where
  start : ∀ c ∈ s.head?, Unicode.isBlank c = false
  finish : ∀ c ∈ s.getLast?, Unicode.isBlank c = false

instance (s : Text) : Decidable s.IsTrimmed :=
  decidable_of_iff (s.head?.all (!Unicode.isBlank ·) ∧ s.getLast?.all (!Unicode.isBlank ·))
    ⟨fun h ↦ ⟨all_not_iff.1 h.1, all_not_iff.1 h.2⟩,
      fun h ↦ ⟨all_not_iff.2 h.start, all_not_iff.2 h.finish⟩⟩

theorem dropWhile_eq_self_of_head? (h : ∀ c ∈ s.head?, p c = false) : s.dropWhile p = s :=
  dropWhile_append_stop (s := []) (by simp) h

theorem trim_cons {c : Char} (hc : Unicode.isBlank c) (s : Text) : trim (c :: s) = trim s := by
  rw [trim, trimStart, List.dropWhile_cons_of_pos hc, trim, trimStart]

theorem trim_eq_self (h : s.IsTrimmed) : trim s = s := by
  have hstart : trimStart s = s := dropWhile_eq_self_of_head? h.start
  have hend : s.reverse.dropWhile Unicode.isBlank = s.reverse :=
    dropWhile_eq_self_of_head? (by simpa using h.finish)
  rw [trim, hstart, trimEnd, hend, List.reverse_reverse]

theorem isTrimmed_trim (s : Text) : IsTrimmed (trim s) := by
  have hstart (t : Text) : ∀ c ∈ (trimStart t).head?, Unicode.isBlank c = false := by
    intro c hc
    have hnot := List.head?_dropWhile_not Unicode.isBlank t
    rw [trimStart, Option.mem_def] at hc
    simpa only [hc] using hnot
  constructor
  · intro c hc
    obtain ⟨rest, hrest⟩ := List.head?_eq_some_iff.1 hc
    obtain ⟨behind, hbehind⟩ : trim s <+: trimStart s :=
      List.reverse_suffix.1 (by simpa [trim, trimEnd] using List.dropWhile_suffix _)
    refine hstart s c ?_
    rw [← hbehind, hrest]
    rfl
  · intro c hc
    rw [trim, trimEnd, List.getLast?_reverse] at hc
    exact hstart _ c hc

/-! ### Blank texts -/

theorem isBlank_trimStart (s : Text) : isBlank (trimStart s) = isBlank s := by
  calc isBlank (trimStart s) = isBlank (s.takeWhile Unicode.isBlank ++ trimStart s) := by
        rw [isBlank, isBlank, List.all_append, List.all_takeWhile, Bool.true_and]
    _ = isBlank s := by rw [trimStart, List.takeWhile_append_dropWhile]

/-- Trimming leaves something of a text unless the text is blank. -/
theorem isBlank_trim (s : Text) : isBlank (trim s) = isBlank s := by
  have hreverse (t : Text) : isBlank t.reverse = isBlank t := List.all_reverse
  rw [trim, trimEnd, hreverse, ← trimStart, isBlank_trimStart, hreverse, isBlank_trimStart]

end ApiReference.Text
