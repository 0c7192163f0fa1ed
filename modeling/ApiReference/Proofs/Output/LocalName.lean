import ApiReference.Proofs.Output.SnakeCase

/-!
# Local names

A local name is the exported name with its first letter in lower case, unless the exported name is
written in capitals throughout. For a name in snake case this is the case when each of its words
is an initialism or has one letter only, so that nothing but digits stand behind its capital.

## Main definitions

* `HasOneLetter`: a word with digits only behind its first letter.

## Main results

* `upperCase_exportedName_eq_self_iff`: the exported names that are written in capitals.
* `localName_eq_exportedName_iff`: the local name of any name in snake case.
-/

namespace ApiReference.Output

open Text

variable {c : Char} {s word name : Text}

/-- A word that has only digits behind its first letter. -/
def HasOneLetter (word : Text) : Prop := ∀ c ∈ word.tail, c.isDigit

instance (word : Text) : Decidable (HasOneLetter word) :=
  decidable_of_iff (word.tail.all Char.isDigit) List.all_eq_true

/-! ### Texts in capitals -/

/-- A text of letters and digits is in upper case when none of its letters is a small one. -/
theorem upperCase_eq_self_iff (h : ∀ c ∈ s, c.isAlphanum) :
    upperCase s = s ↔ ∀ c ∈ s, c.isLower = false := by
  have hupper : upperCase s = s.map Char.toUpper := by
    rw [upperCase, List.flatMap_congr fun c hc ↦ Unicode.upper_eq (h c hc), List.map_eq_flatMap]
  have hmap : s.map Char.toUpper = s ↔ ∀ c ∈ s, c.toUpper = c := by
    simpa using List.map_inj_left (f := Char.toUpper) (g := id) (l := s)
  rw [hupper, hmap]
  exact forall₂_congr fun c _ ↦ Unicode.toUpper_eq_self_iff

/-! ### Words in capitals -/

/-- Of the small characters the digits are no letters. -/
theorem isLower_eq_false_iff_of_isSmall (h : isSmall c) : c.isLower = false ↔ c.isDigit := by
  rcases Bool.or_eq_true_iff.1 h with hlower | hdigit
  · have hge := (Unicode.bounds_of_isLower hlower).1
    refine iff_of_false (by simp [hlower]) fun hdigit ↦ ?_
    have hle := (Unicode.bounds_of_isDigit hdigit).2
    omega
  · have hle := (Unicode.bounds_of_isDigit hdigit).2
    refine iff_of_true (Bool.eq_false_iff.2 fun hlower ↦ ?_) hdigit
    have hge := (Unicode.bounds_of_isLower hlower).1
    omega

/-- An exported word consists of letters and digits. -/
theorem isAlphanum_of_mem_exportedWord (h : IsSnakeWord word) :
    ∀ c ∈ exportedWord word, c.isAlphanum := by
  by_cases hmem : word ∈ initialisms
  · have hinitialisms : ∀ word ∈ initialisms, (exportedWord word).all Char.isAlphanum := by
      decide +kernel
    exact List.all_eq_true.1 (hinitialisms word hmem)
  · obtain ⟨c, rest, rfl, hc, hrest⟩ := h.exists_eq_cons
    have hcapital : c.toUpper.isAlphanum :=
      Unicode.isAlphanum_iff.2 (.inl (Unicode.isUpper_toUpper hc))
    rw [exportedWord_cons hc hrest hmem]
    exact List.forall_mem_cons.2 ⟨hcapital, fun d hd ↦ isAlphanum_of_isSmall (hrest d hd)⟩

/-- An exported word has no small letters when it is an initialism or has one letter only. -/
theorem isLower_eq_false_exportedWord_iff (h : IsSnakeWord word) :
    (∀ c ∈ exportedWord word, c.isLower = false) ↔ word ∈ initialisms ∨ HasOneLetter word := by
  by_cases hmem : word ∈ initialisms
  · have hinitialisms : ∀ word ∈ initialisms, (exportedWord word).all (!Char.isLower ·) := by
      decide +kernel
    refine iff_of_true (fun c hc ↦ ?_) (.inl hmem)
    simpa using List.all_eq_true.1 (hinitialisms word hmem) c hc
  · obtain ⟨c, rest, rfl, hc, hrest⟩ := h.exists_eq_cons
    rw [exportedWord_cons hc hrest hmem, List.forall_mem_cons, or_iff_right hmem,
      and_iff_right (Unicode.isLower_eq_false_of_isUpper (Unicode.isUpper_toUpper hc))]
    exact forall₂_congr fun d hd ↦ isLower_eq_false_iff_of_isSmall (hrest d hd)

/-! ### Names in capitals -/

/-- An exported name is written in capitals when every word is an initialism or has one letter
only. -/
theorem upperCase_exportedName_eq_self_iff (h : IsSnakeName name) :
    upperCase (exportedName name) = exportedName name ↔
      ∀ word ∈ split '_' name, word ∈ initialisms ∨ HasOneLetter word := by
  rw [exportedName_eq h]
  have halphanum : ∀ c ∈ (split '_' name).flatMap exportedWord, c.isAlphanum := by
    intro c hc
    obtain ⟨word, hword, hmem⟩ := List.mem_flatMap.1 hc
    exact isAlphanum_of_mem_exportedWord (h word hword) c hmem
  rw [upperCase_eq_self_iff halphanum]
  calc (∀ c ∈ (split '_' name).flatMap exportedWord, c.isLower = false)
      ↔ ∀ word ∈ split '_' name, ∀ c ∈ exportedWord word, c.isLower = false := by
        simp only [List.mem_flatMap, forall_exists_index, and_imp]
        exact ⟨fun hall word hword c hc ↦ hall c word hword hc,
          fun hall c word hword hc ↦ hall word hword c hc⟩
    _ ↔ ∀ word ∈ split '_' name, word ∈ initialisms ∨ HasOneLetter word :=
        forall₂_congr fun word hword ↦ isLower_eq_false_exportedWord_iff (h word hword)

/-- The local name of a name in snake case is the exported name exactly when every word is an
initialism or has one letter only. Otherwise it has the small letter of the capital that the
exported name starts with, and goes on in the same way. -/
theorem localName_eq_exportedName_iff (h : IsSnakeName name) :
    (localName name = exportedName name ↔
      ∀ word ∈ split '_' name, word ∈ initialisms ∨ HasOneLetter word) ∧
    ((∃ word ∈ split '_' name, word ∉ initialisms ∧ ¬ HasOneLetter word) →
      ∃ c rest, exportedName name = c :: rest ∧ c.isUpper ∧
        localName name = c.toLower :: rest ∧ c.toLower.isLower) := by
  obtain ⟨c, rest, hexported, hc, -⟩ := exists_exportedName_eq_cons h
  have hcapital : c.isLower = false := Unicode.isLower_eq_false_of_isUpper hc
  have hlower : c.toLower.isLower := Unicode.isLower_toLower hc
  have hlocal (hcase : upperCase (exportedName name) ≠ exportedName name) :
      localName name = c.toLower :: rest := by
    simp only [localName, if_neg (mt beq_iff_eq.1 hcase)]
    simp only [hexported]
    rw [Unicode.lower_eq (Unicode.isAlphanum_iff.2 (.inl hc)), List.singleton_append]
  refine ⟨?_, fun ⟨word, hword, hnot⟩ ↦ ⟨c, rest, hexported, hc, hlocal ?_, hlower⟩⟩
  · rw [← upperCase_exportedName_eq_self_iff h]
    constructor
    · intro heq
      by_contra hcase
      rw [hlocal hcase, hexported, List.cons.injEq] at heq
      rw [heq.1, hcapital] at hlower
      cases hlower
    · intro hcase
      simp only [localName, if_pos (beq_iff_eq.2 hcase)]
  · rw [ne_eq, upperCase_exportedName_eq_self_iff h]
    exact fun hall ↦ (hall word hword).elim hnot.1 hnot.2

/-- An initialism beside a word with one letter, and beside a word with more letters. -/
theorem localName_of_user_id :
    localName "ip_x2" = exportedName "ip_x2" ∧
      ∃ c rest, exportedName "user_id" = c :: rest ∧ c.isUpper ∧
        localName "user_id" = c.toLower :: rest ∧ c.toLower.isLower :=
  ⟨(localName_eq_exportedName_iff (by decide)).1.2 (by decide),
    (localName_eq_exportedName_iff (by decide)).2 (by decide)⟩

/-- A word with one letter is no initialism, and yet its capital is kept. -/
theorem localName_of_one_letter :
    IsSnakeName "x" ∧ (∃ word ∈ split '_' "x", word ∉ initialisms) ∧ exportedName "x" = "X".toList ∧
      localName "x" = "X".toList ∧
      ¬ ∃ c rest, exportedName "x" = c :: rest ∧ localName "x" = c.toLower :: rest := by
  have hexported : exportedName "x" = ['X'] := by decide +kernel
  have hlocal : localName "x" = ['X'] := by decide +kernel
  refine ⟨by decide, by decide, hexported, hlocal, ?_⟩
  rintro ⟨c, rest, hcapital, hsmall⟩
  rw [hexported, List.cons.injEq] at hcapital
  rw [hlocal, ← hcapital.1] at hsmall
  cases hsmall

end ApiReference.Output
