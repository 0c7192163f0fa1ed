import ApiReference.Proofs.Text.Run
import ApiReference.Proofs.Unicode.CodePoint
import ApiReference.Schema.ResultPhrase
import Mathlib.Data.List.Forall2

/-!
# Words that lead to a type

The active phrase has words before its type: `returns`, which may be in any case, an article, and
any number of lower-case words. Case does not matter for a letter and its forms under simple case
folding, which for the s and the k are three. The lower-case words are all taken off at once, and
what stays does not depend on how they are grouped.

## Main definitions

* `IsInAnyCase`: a text that is a word up to the case of its letters.
* `IsLowerWord`: a word of lower-case letters.

## Main results

* `afterFolded?_eq_some_iff`: a word is taken off in any case.
* `exists_lowerWords_append`, `dropLowerWords_append`: all lower-case words are taken off.
-/

namespace ApiReference.Schema

open Text

/-! ### Words in any case -/

/-- The forms that a lower-case ASCII letter stands for when case does not matter: itself, its
capital, for the s the long s, and for the k the sign of the kelvin. -/
def caseForms (letter : Char) : List Char :=
  [letter, letter.toUpper] ++
    if letter = 's' then ['\u017F'] else if letter = 'k' then ['\u212A'] else []

/-- A text that is a lower-case word up to the case of its letters. -/
def IsInAnyCase (word s : Text) : Prop :=
  List.Forall₂ (fun c letter ↦ c ∈ caseForms letter) s word

theorem foldCase_eq_self {c : Char} (hc : 0x80 ≤ c.toNat) (hs : c ≠ '\u017F') (hk : c ≠ '\u212A') :
    foldCase c = c := by
  have hupper : c.isUpper = false := by
    refine Bool.eq_false_iff.2 fun hupper ↦ ?_
    have hle := (Unicode.bounds_of_isUpper hupper).2
    omega
  rw [foldCase, if_neg hs, if_neg hk, Unicode.toLower_eq_self hupper]

/-- A character that folds to a letter is a form of it. -/
theorem mem_caseForms_foldCase {c : Char} (h : (foldCase c).isLower) :
    c ∈ caseForms (foldCase c) := by
  rcases Nat.lt_or_ge c.toNat 0x80 with hc | hc
  · revert h
    exact Unicode.forall_of_forall_code
      (p := fun c ↦ (foldCase c).isLower → c ∈ caseForms (foldCase c)) 0x80 (by decide +kernel) c hc
  by_cases hs : c = '\u017F'
  · subst hs
    decide
  by_cases hk : c = '\u212A'
  · subst hk
    decide
  rw [foldCase_eq_self hc hs hk] at h
  have hle := (Unicode.bounds_of_isLower h).2
  omega

/-- The forms of a letter fold to it. -/
theorem foldCase_of_mem_caseForms {c letter : Char} (hletter : letter.isLower)
    (h : c ∈ caseForms letter) : foldCase c = letter := by
  have hascii : letter.toNat < 0x80 :=
    Nat.lt_of_le_of_lt (Unicode.bounds_of_isLower hletter).2 (by decide)
  have hforms := Unicode.forall_of_forall_code
    (p := fun letter ↦ letter.isLower → (caseForms letter).all (foldCase · == letter)) 0x80
    (by decide +kernel) letter hascii
  exact beq_iff_eq.1 (List.all_eq_true.1 (hforms hletter) c h)

theorem foldCase_eq_iff {c letter : Char} (hletter : letter.isLower) :
    foldCase c = letter ↔ c ∈ caseForms letter := by
  refine ⟨?_, foldCase_of_mem_caseForms hletter⟩
  rintro rfl
  exact mem_caseForms_foldCase hletter

/-- A text folds to a lower-case word where it is the word in any case. -/
theorem map_foldCase_eq_iff {word s : Text} (hword : ∀ c ∈ word, c.isLower) :
    s.map foldCase = word ↔ IsInAnyCase word s := by
  induction word generalizing s with
  | nil => simp [IsInAnyCase]
  | cons letter word ih =>
    obtain ⟨hletter, hword⟩ := List.forall_mem_cons.1 hword
    cases s with
    | nil => simp [IsInAnyCase]
    | cons c s =>
      simp only [List.map_cons, List.cons.injEq, foldCase_eq_iff hletter, ih hword, IsInAnyCase,
        List.forall₂_cons]

theorem afterFolded?_eq_some_iff {word s rest : Text} (hword : ∀ c ∈ word, c.isLower) :
    afterFolded? word s = some rest ↔ ∃ lead, IsInAnyCase word lead ∧ s = lead ++ rest := by
  rw [afterFolded?, Option.ite_none_right_eq_some, map_foldCase_eq_iff hword, Option.some.injEq]
  constructor
  · rintro ⟨hlead, rfl⟩
    exact ⟨_, hlead, (List.take_append_drop _ s).symm⟩
  · rintro ⟨lead, hlead, rfl⟩
    have hlength : lead.length = word.length := List.Forall₂.length_eq hlead
    rw [List.take_left' hlength, List.drop_left' hlength]
    exact ⟨hlead, rfl⟩

/-! ### Lower-case words -/

/-- A word of lower-case letters. -/
def IsLowerWord (word : Text) : Prop := word ≠ [] ∧ ∀ c ∈ word, c.isLower

/-- What is taken off is a number of lower-case words with a space behind each of them. -/
theorem exists_lowerWords_append (s : Text) :
    ∃ words : List Text, (∀ word ∈ words, IsLowerWord word) ∧
      s = words.flatMap (· ++ [' ']) ++ dropLowerWords s := by
  fun_induction dropLowerWords s with
  | case1 s rest hrest hempty => exact ⟨[], by simp, rfl⟩
  | case2 s rest hrest hempty ih =>
    obtain ⟨words, hwords, hs⟩ := ih
    refine ⟨s.takeWhile Char.isLower :: words, ?_, ?_⟩
    · refine List.forall_mem_cons.2 ⟨⟨?_, List.all_eq_true.1 List.all_takeWhile⟩, hwords⟩
      simpa using hempty
    · rw [List.flatMap_cons, List.append_assoc, List.append_assoc, ← hs]
      exact (List.takeWhile_append_dropWhile.symm.trans (by rw [hrest]; rfl))
  | case3 s hrest => exact ⟨[], by simp, rfl⟩

/-- No words are taken off where none starts. -/
theorem dropLowerWords_eq_self {s : Text} (h : ∀ c ∈ s.head?, c.isLower = false) :
    dropLowerWords s = s := by
  have hrun : s.takeWhile Char.isLower = [] := takeWhile_append_stop (s := []) (by simp) h
  rw [dropLowerWords]
  split
  · rw [hrun]
    rfl
  · rfl

/-- A lower-case word is taken off with its space. -/
theorem dropLowerWords_append_space {word : Text} (hword : IsLowerWord word) (rest : Text) :
    dropLowerWords (word ++ ' ' :: rest) = dropLowerWords rest := by
  obtain ⟨hne, hletters⟩ := hword
  have hstop : ∀ c ∈ (' ' :: rest).head?, c.isLower = false := by simp
  rw [dropLowerWords]
  split
  · rename_i behind hbehind
    rw [dropWhile_append_stop hletters hstop] at hbehind
    obtain rfl := (List.cons.inj hbehind).2
    rw [takeWhile_append_stop hletters hstop, if_neg (by simpa using hne)]
  · rename_i hother
    exact absurd (dropWhile_append_stop hletters hstop) (hother rest)

/-- Lower-case words are taken off as far as they go. -/
theorem dropLowerWords_append {words : List Text} {rest : Text}
    (hwords : ∀ word ∈ words, IsLowerWord word) (hrest : ∀ c ∈ rest.head?, c.isLower = false) :
    dropLowerWords (words.flatMap (· ++ [' ']) ++ rest) = rest := by
  induction words with
  | nil => exact dropLowerWords_eq_self hrest
  | cons word words ih =>
    obtain ⟨hword, hwords⟩ := List.forall_mem_cons.1 hwords
    have hcons : (word :: words).flatMap (· ++ [' ']) ++ rest =
        word ++ ' ' :: (words.flatMap (· ++ [' ']) ++ rest) := by simp
    rw [hcons, dropLowerWords_append_space hword, ih hwords]

end ApiReference.Schema
