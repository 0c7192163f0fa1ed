import ApiReference.Output.Identifier
import ApiReference.Proofs.Text.Line
import ApiReference.Proofs.Unicode.CodePoint
import Mathlib.Data.List.Basic

/-!
# Names in snake case

The parameters of an API are named in lower-case words with underscores between them. In an exported
name each of the words either is an initialism, in capitals throughout, or has its first letter in
upper case and the rest of it as it is. So there is a capital where a word starts. The local name of
a parameter differs from the exported one in its first letter at most.

## Main definitions

* `IsSnakeWord`, `IsSnakeName`: a word, and words with underscores between them.

## Main results

* `exportedWord_cons`, `exportedName_eq`: exported words, and the exported name of all the words.
* `exists_exportedName_eq_cons`: how exported and local names start.
-/

namespace ApiReference.Output

open Text

variable {c : Char} {word name rest : Text}

/-- Whether a character is a lower-case letter or a digit of ASCII. -/
def isSmall (c : Char) : Bool := c.isLower || c.isDigit

/-- A word of a name: a lower-case letter of ASCII with lower-case letters and digits behind it. -/
structure IsSnakeWord (word : Text) : Prop where
  start : word.head?.any Char.isLower
  small : ∀ c ∈ word, isSmall c

instance (word : Text) : Decidable (IsSnakeWord word) :=
  decidable_of_iff (word.head?.any Char.isLower ∧ word.all isSmall)
    ⟨fun h ↦ ⟨h.1, List.all_eq_true.1 h.2⟩, fun h ↦ ⟨h.start, List.all_eq_true.2 h.small⟩⟩

/-- A name that consists of one or more words with underscores between them. -/
def IsSnakeName (name : Text) : Prop := ∀ word ∈ split '_' name, IsSnakeWord word

instance (name : Text) : Decidable (IsSnakeName name) :=
  inferInstanceAs (Decidable (∀ word ∈ split '_' name, IsSnakeWord word))

theorem IsSnakeWord.exists_eq_cons (h : IsSnakeWord word) :
    ∃ c rest, word = c :: rest ∧ c.isLower ∧ ∀ d ∈ rest, isSmall d := by
  obtain ⟨hstart, hsmall⟩ := h
  cases word with
  | nil => simp at hstart
  | cons c rest => exact ⟨c, rest, rfl, hstart, (List.forall_mem_cons.1 hsmall).2⟩

/-! ### Small characters -/

theorem isSmall_of_isLower (h : c.isLower) : isSmall c := Bool.or_eq_true_iff.2 (.inl h)

theorem isAlphanum_of_isSmall (h : isSmall c) : c.isAlphanum :=
  Unicode.isAlphanum_iff.2 (.inr (Bool.or_eq_true_iff.1 h))

theorem isUpper_eq_false_of_isSmall (h : isSmall c) : c.isUpper = false := by
  refine Bool.eq_false_iff.2 fun hupper ↦ ?_
  obtain ⟨hge, hle⟩ := Unicode.bounds_of_isUpper hupper
  rcases Bool.or_eq_true_iff.1 h with hlower | hdigit
  · have := (Unicode.bounds_of_isLower hlower).1
    omega
  · have := (Unicode.bounds_of_isDigit hdigit).2
    omega

theorem lowerCase_eq_self (h : ∀ c ∈ word, isSmall c) : lowerCase word = word := by
  have hlower : ∀ c ∈ word, Unicode.lower c = [c] := fun c hc ↦ by
    rw [Unicode.lower_eq (isAlphanum_of_isSmall (h c hc)),
      Unicode.toLower_eq_self (isUpper_eq_false_of_isSmall (h c hc))]
  rw [lowerCase, List.flatMap_congr hlower, List.flatMap_singleton']

/-! ### Exported words -/

/-- A word that is no initialism is capitalized. -/
theorem exportedWord_cons (hc : c.isLower) (hrest : ∀ d ∈ rest, isSmall d)
    (h : c :: rest ∉ initialisms) : exportedWord (c :: rest) = c.toUpper :: rest := by
  have hsmall : ∀ d ∈ c :: rest, isSmall d :=
    List.forall_mem_cons.2 ⟨isSmall_of_isLower hc, hrest⟩
  have hcontains : ¬ initialisms.contains (lowerCase (c :: rest)) := by
    rwa [lowerCase_eq_self hsmall, List.contains_iff_mem]
  rw [exportedWord, if_neg hcontains,
    Unicode.upper_eq (isAlphanum_of_isSmall (isSmall_of_isLower hc))]
  rfl

/-- An exported word starts with a capital. -/
theorem exists_exportedWord_eq_cons (h : IsSnakeWord word) :
    ∃ c rest, exportedWord word = c :: rest ∧ c.isUpper := by
  by_cases hmem : word ∈ initialisms
  · have hinitialisms : ∀ word ∈ initialisms, (exportedWord word).head?.any Char.isUpper := by
      decide +kernel
    have hupper := hinitialisms word hmem
    cases hexported : exportedWord word with
    | nil => simp [hexported] at hupper
    | cons c rest => exact ⟨c, rest, rfl, by simpa [hexported] using hupper⟩
  · obtain ⟨c, rest, rfl, hc, hrest⟩ := h.exists_eq_cons
    exact ⟨_, _, exportedWord_cons hc hrest hmem, Unicode.isUpper_toUpper hc⟩

/-! ### Exported and local names -/

/-- The words of a name are all exported, as none of them is empty. -/
theorem exportedName_eq (h : IsSnakeName name) :
    exportedName name = (split '_' name).flatMap exportedWord := by
  have hfilter : (split '_' name).filter (!·.isEmpty) = split '_' name := by
    refine List.filter_eq_self.2 fun word hword ↦ ?_
    obtain ⟨c, rest, rfl, -⟩ := (h word hword).exists_eq_cons
    rfl
  rw [exportedName, hfilter]

/-- An exported name starts with a capital, and the local name starts with this capital or its small
letter and goes on in the same way. -/
theorem exists_exportedName_eq_cons (h : IsSnakeName name) :
    ∃ c rest, exportedName name = c :: rest ∧ c.isUpper ∧
      (localName name = c :: rest ∨ localName name = c.toLower :: rest) := by
  obtain ⟨word, words, hsplit⟩ := List.exists_cons_of_ne_nil (split_ne_nil '_' name)
  obtain ⟨c, rest, hword, hc⟩ :=
    exists_exportedWord_eq_cons (h word (hsplit ▸ List.mem_cons_self))
  have hexported : exportedName name = c :: (rest ++ words.flatMap exportedWord) := by
    rw [exportedName_eq h, hsplit, List.flatMap_cons, hword, List.cons_append]
  refine ⟨c, _, hexported, hc, ?_⟩
  simp only [localName, hexported]
  split
  · exact .inl rfl
  · refine .inr ?_
    rw [Unicode.lower_eq (Unicode.isAlphanum_iff.2 (.inl hc))]
    rfl

end ApiReference.Output
