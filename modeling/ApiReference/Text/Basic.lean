import ApiReference.Unicode.Blank

/-!
# Texts

Everything the library reads, holds and writes is a text: a list of characters. Widths, positions
and orders all count characters, and the order of texts is the lexicographic order by code points.
A string literal stands for the text of its characters wherever a text is expected.

## Main definitions

* `Text.trim`: a text without the white space at its two ends.
* `Text.split`, `Text.lines`: the parts of a text between the occurrences of a character.
* `Text.unlines`: the text of some lines, each of them ended by a newline.
* `Text.asciiLower`: a text with its ASCII letters in lower case.

## Main results

* `Text.intercalate_split`: splitting loses nothing but the separators.
* `Text.length_trim_le`: trimming lengthens no text.
-/

namespace ApiReference

/-- A text is the list of its characters. -/
abbrev Text : Type := List Char

scoped instance : Coe String Text := ⟨String.toList⟩

namespace Text

/-! ### White space -/

/-- A text without the white space at its start. -/
def trimStart (s : Text) : Text := s.dropWhile Unicode.isBlank

/-- A text without the white space at its end. -/
def trimEnd (s : Text) : Text := (s.reverse.dropWhile Unicode.isBlank).reverse

/-- A text without the white space at its two ends. -/
def trim (s : Text) : Text := trimEnd (trimStart s)

/-- Whether a text consists of white space only. The empty text does. -/
def isBlank (s : Text) : Bool := s.all Unicode.isBlank

theorem length_trim_le (s : Text) : (trim s).length ≤ s.length := by
  have hstart : (trimStart s).length ≤ s.length :=
    (List.dropWhile_sublist Unicode.isBlank).length_le
  have hend : (trimEnd (trimStart s)).length ≤ (trimStart s).length := by
    simpa [trimEnd] using
      (List.dropWhile_sublist Unicode.isBlank (l := (trimStart s).reverse)).length_le
  exact Nat.le_trans hend hstart

/-! ### Parts and lines -/

/-- The parts of a text between the occurrences of a separator. A text without the separator is its
own only part, and the empty text has one part, which is empty. -/
def split (separator : Char) : Text → List Text
  | [] => [[]]
  | c :: rest =>
    if c = separator then [] :: split separator rest
    else (split separator rest).modifyHead (c :: ·)

/-- The lines of a text: its parts between newlines. -/
def lines (s : Text) : List Text := split '\n' s

/-- The text of some lines, each of them ended by a newline. -/
def unlines (ls : List Text) : Text := ls.flatMap (· ++ ['\n'])

theorem split_ne_nil (separator : Char) (s : Text) : split separator s ≠ [] := by
  induction s with
  | nil => simp [split]
  | cons c rest ih =>
    rw [split]
    split
    · simp
    · cases h : split separator rest <;> simp_all

/-- The parts of a text, joined by the separator, give the text back. -/
theorem intercalate_split (separator : Char) (s : Text) :
    List.intercalate [separator] (split separator s) = s := by
  induction s with
  | nil => rfl
  | cons c rest ih =>
    rw [split]
    cases h : split separator rest with
    | nil => exact absurd h (split_ne_nil separator rest)
    | cons part parts =>
      rw [h] at ih
      split
      · rename_i hc
        rw [List.intercalate_cons_cons, ih, hc]
        rfl
      · cases parts with
        | nil =>
          rw [← ih]
          simp [List.intercalate]
        | cons next others =>
          rw [List.modifyHead_cons, List.intercalate_cons_cons, ← ih,
            List.intercalate_cons_cons]
          rfl

/-! ### Letters -/

/-- A text with its ASCII letters in lower case and all other characters as they are. -/
def asciiLower (s : Text) : Text := s.map Char.toLower

end Text

end ApiReference
