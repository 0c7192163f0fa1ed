import ApiReference.Proofs.Schema.ArrayTower
import ApiReference.Proofs.Schema.ResultType
import ApiReference.Proofs.Unicode.CodePoint

/-!
# What named types mean

The types that phrases name are read once more as declared types. There the words of arrays are
looked for anywhere and cut out, and what is left has to be a name. A named type is a tower of
arrays on a capitalized word. In the word itself there are no words of arrays, not even where it is
`Array`, and there is no `or` anywhere. So the declared type has the dimensions of the named one,
and its base is what the word says.

## Main results

* `BaseType.ofName_of_isCapitalized`: the base that a capitalized word stands for.
* `DeclaredType.ofText_text`: the declared type that a named type means.
-/

namespace ApiReference.Schema

open Text

variable {word : Text}

namespace IsCapitalized

theorem isBlank_eq_false (h : IsCapitalized word) : ∀ c ∈ word, Unicode.isBlank c = false :=
  fun c hc ↦ Unicode.isBlank_eq_false_of_isAlphanum (h.all_isAlphanum c hc)

theorem space_notMem (h : IsCapitalized word) : ' ' ∉ word := fun hspace ↦
  absurd (h.isBlank_eq_false ' ' hspace) (by decide)

theorem isTrimmed (h : IsCapitalized word) : IsTrimmed word where
  start c hc := h.isBlank_eq_false c (List.mem_of_mem_head? hc)
  finish c hc := h.isBlank_eq_false c (List.mem_of_mem_getLast? hc)

/-- A capitalized word is an identifier. -/
theorem isIdentifier (h : IsCapitalized word) : isIdentifier word := by
  have hall : ∀ c ∈ word, Unicode.isAlphanumeric c || c == '_' := fun c hc ↦
    Bool.or_eq_true_iff.2 (.inl (Unicode.isAlphanumeric_of_isAlphanum (h.all_isAlphanum c hc)))
  obtain ⟨c, rest, rfl, -⟩ := h
  exact List.all_eq_true.2 hall

theorem head?_isUppercase (h : IsCapitalized word) : word.head?.any Unicode.isUppercase := by
  obtain ⟨c, rest, rfl, hc, -⟩ := h
  exact Unicode.isUppercase_of_isUpper hc

end IsCapitalized

/-- The base that a capitalized word stands for. -/
theorem BaseType.ofName_of_isCapitalized (opaqueNames : List Text) (h : IsCapitalized word) :
    ofName opaqueNames word =
      match scalarNames.lookup word with
      | some known => .scalar known
      | none => if word ∈ shapelessNames ∨ word ∈ opaqueNames then .any else .reference word := by
  rw [ofName]
  cases scalarNames.lookup word with
  | some known => rfl
  | none => simp [h.isIdentifier, h.head?_isUppercase]

namespace DeclaredType

/-- The words of arrays do not occur in a single word. -/
theorem dimensions_of_isCapitalized (opaqueNames : List Text) (h : IsCapitalized word) :
    (ofText opaqueNames word).dimensions = 0 :=
  dimensions_eq_zero_iff.2 fun hmem ↦ h.space_notMem (hmem.subset (by decide))

theorem base_of_isCapitalized (opaqueNames : List Text) (h : IsCapitalized word) :
    (ofText opaqueNames word).base = .ofName opaqueNames word := by
  have hor : ¬ [' ', 'o', 'r'] <:+: word := fun hmem ↦
    h.space_notMem (hmem.subset List.mem_cons_self)
  have hnone : ¬ arrayWords <:+: word := dimensions_eq_zero_iff.1 (dimensions_of_isCapitalized [] h)
  rw [base_eq_ofName_of_not_or hor, pieces_of_not_infix hnone, List.flatten_singleton,
    trim_eq_self h.isTrimmed]

/-- No named type has an `or` behind a space. -/
theorem not_or_infix_text (type : NamedType) : ¬ [' ', 'o', 'r'] <:+: type.text := by
  induction type using NamedType.induction with
  | word word h => exact fun hmem ↦ h.space_notMem (hmem.subset List.mem_cons_self)
  | array element ih =>
    rw [NamedType.text_array, or_infix_arrayOf_append_iff, List.infix_cons_iff, not_or]
    refine ⟨?_, ih⟩
    rintro ⟨behind, hbehind⟩
    obtain ⟨c, rest, htext, hc⟩ := element.exists_text_eq_cons
    rw [htext] at hbehind
    obtain ⟨-, htail⟩ := List.cons.inj hbehind
    obtain ⟨rfl, -⟩ := List.cons.inj htail
    exact absurd hc (by decide)

/-- A named type means a declared type of its dimensions whose base is what its word stands for. -/
theorem ofText_text (opaqueNames : List Text) (type : NamedType) :
    ofText opaqueNames type.text =
      { base := .ofName opaqueNames type.word
        dimensions := type.dimensions
        looseUnion := false } := by
  have hbase : (ofText opaqueNames type.text).base = .ofName opaqueNames type.word := by
    rw [NamedType.text, base_tower_append, base_of_isCapitalized opaqueNames type.isCapitalized]
  have hdimensions : (ofText opaqueNames type.text).dimensions = type.dimensions := by
    rw [NamedType.text, dimensions_tower_append,
      dimensions_of_isCapitalized opaqueNames type.isCapitalized, Nat.add_zero]
  have hunion : (ofText opaqueNames type.text).looseUnion = false :=
    occurs_eq_false_iff.2 (not_or_infix_text type)
  rw [← hbase, ← hdimensions, ← hunion]

end DeclaredType

end ApiReference.Schema
