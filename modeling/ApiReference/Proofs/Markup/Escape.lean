import ApiReference.Markup.CharacterReference

/-!
# Escaped texts

A text is written into markup with references in the place of the characters that would be read as
something else there: the ampersand, and the character that would end the text, which is the angle
bracket between tags and the quote in the value of an attribute. Decoding gives the text back.

## Main definitions

* `referenceTo`: a special character as a reference.
* `escape`: a text that is written in front of a delimiter.

## Main results

* `decodeReferences_escape`: decoding undoes the writing.
* `notMem_escape`: the delimiter does not occur in what is written.
-/

namespace ApiReference.Markup

/-- A special character as a reference by its name, and any other character as it is. -/
def referenceTo : Char → Text
  | '&' => "&amp;"
  | '<' => "&lt;"
  | '"' => "&quot;"
  | c => [c]

/-- A text as it is written in front of a delimiter: the ampersands and the delimiters in it are
references. -/
def escape (delimiter : Char) (s : Text) : Text :=
  s.flatMap fun c ↦ if c = '&' ∨ c = delimiter then referenceTo c else [c]

/-! ### Decoding -/

/-- A character that starts no reference stands for itself. -/
theorem decodeReferences_cons_of_ne {c : Char} (hc : c ≠ '&') (s : Text) :
    decodeReferences (c :: s) = c :: decodeReferences s := by
  rw [decodeReferences]
  exact hc

theorem decodeReferences_ampersand {c : Char} {s rest : Text}
    (h : readReference? s = some (c, rest)) :
    decodeReferences ('&' :: s) = c :: decodeReferences rest := by
  rw [decodeReferences]
  split <;> simp_all

/-- The reference to a character is read as the character. -/
theorem decodeReferences_referenceTo_append (c : Char) (s : Text) :
    decodeReferences (referenceTo c ++ s) = c :: decodeReferences s := by
  unfold referenceTo
  split
  · exact decodeReferences_ampersand rfl
  · exact decodeReferences_ampersand rfl
  · exact decodeReferences_ampersand rfl
  · rename_i hc _ _
    exact decodeReferences_cons_of_ne hc s

/-- Decoding undoes the writing of a text. -/
theorem decodeReferences_escape (delimiter : Char) (s : Text) :
    decodeReferences (escape delimiter s) = s := by
  induction s with
  | nil => rw [escape, List.flatMap_nil, decodeReferences]
  | cons c s ih =>
    rw [escape, List.flatMap_cons, ← escape]
    split
    · rw [decodeReferences_referenceTo_append, ih]
    · rename_i hc
      rw [List.singleton_append, decodeReferences_cons_of_ne (not_or.1 hc).1, ih]

/-! ### Delimiters -/

/-- The delimiter does not occur in what is written. -/
theorem notMem_escape {delimiter : Char} (h : delimiter = '<' ∨ delimiter = '"') (s : Text) :
    delimiter ∉ escape delimiter s := by
  rw [escape, List.mem_flatMap]
  rintro ⟨c, -, hc⟩
  split at hc
  · rename_i hspecial
    rcases h with rfl | rfl <;> rcases hspecial with rfl | rfl <;> revert hc <;> decide
  · rename_i hspecial
    exact not_or.1 hspecial |>.2 (List.mem_singleton.1 hc).symm

theorem escape_eq_nil_iff {delimiter : Char} {s : Text} : escape delimiter s = [] ↔ s = [] := by
  constructor
  · intro h
    rw [← decodeReferences_escape delimiter s, h, decodeReferences]
  · rintro rfl
    rfl

end ApiReference.Markup
