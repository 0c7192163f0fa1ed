import ApiReference.Text.Numeral

/-!
# Character references

A character reference stands for one character: `&amp;` by name, `&#38;` by its code point in base
ten and `&#x26;` in base sixteen. It starts with an ampersand and ends with a semicolon. What looks
like a reference but names no character is ordinary text, and so is an ampersand that starts
nothing of the kind. Decoding is a single pass: the character that a reference stands for is never
read again as part of another reference.

## Main definitions

* `Markup.namedCharacters`: the names that are known, with their characters.
* `Markup.readReference?`: the reference behind an ampersand.
* `Markup.decodeReferences`: a text with every reference replaced by its character.

## Main results

* `Markup.length_lt_of_readReference?`: a reference takes up some of the text.
-/

namespace ApiReference.Markup

open Text

/-- The names of characters, without the ampersand and the semicolon. -/
def namedCharacters : List (Text × Char) := [
  ("amp", '&'), ("lt", '<'), ("gt", '>'), ("quot", '"'), ("apos", '\''), ("nbsp", '\u00A0'),
  ("mdash", '\u2014'), ("ndash", '\u2013'), ("hellip", '\u2026'), ("laquo", '\u00AB'),
  ("raquo", '\u00BB'), ("copy", '\u00A9'), ("reg", '\u00AE'), ("lsquo", '\u2018'),
  ("rsquo", '\u2019'), ("ldquo", '\u201C'), ("rdquo", '\u201D'), ("times", '\u00D7'),
  ("middot", '\u00B7'), ("bull", '\u2022'), ("thinsp", '\u2009'), ("ensp", '\u2002'),
  ("emsp", '\u2003'), ("larr", '\u2190'), ("rarr", '\u2192'), ("deg", '\u00B0')]

/-- The character of a code point. The surrogates and the numbers beyond the last plane are the
code points of no character. -/
def charOfCode? (n : Nat) : Option Char :=
  if n.isValidChar then some (Char.ofNat n) else none

/-- A character given by the digits of its code point, and the text behind the semicolon. -/
def readNumbered? (base : Nat) (isDigit : Char → Bool) (s : Text) : Option (Char × Text) :=
  match s.takeWhile isDigit, s.dropWhile isDigit with
  | digit :: digits, ';' :: rest =>
    (charOfCode? (numeralValue base (digit :: digits))).map (·, rest)
  | _, _ => none

/-- A character given by its name, and the text behind the semicolon. -/
def readNamed? (s : Text) : Option (Char × Text) :=
  match s.dropWhile Char.isAlphanum with
  | ';' :: rest => (namedCharacters.lookup (s.takeWhile Char.isAlphanum)).map (·, rest)
  | _ => none

/-- The character of the reference whose ampersand has just been read, and the text behind the
reference. -/
def readReference? : Text → Option (Char × Text)
  | '#' :: 'x' :: s => readNumbered? 16 isHexDigit s
  | '#' :: 'X' :: s => readNumbered? 16 isHexDigit s
  | '#' :: s => readNumbered? 10 Char.isDigit s
  | s => readNamed? s

theorem length_lt_of_readNumbered? {base : Nat} {isDigit : Char → Bool} {s rest : Text} {c : Char}
    (h : readNumbered? base isDigit s = some (c, rest)) : rest.length < s.length := by
  unfold readNumbered? at h
  split at h
  · rename_i _ _ _ _ _ hdrop
    obtain ⟨_, _, heq⟩ := Option.map_eq_some_iff.1 h
    have hle := (List.dropWhile_suffix (l := s) isDigit).length_le
    rw [hdrop, List.length_cons] at hle
    obtain ⟨rfl, rfl⟩ := Prod.mk.inj heq
    exact hle
  · simp at h

theorem length_lt_of_readNamed? {s rest : Text} {c : Char}
    (h : readNamed? s = some (c, rest)) : rest.length < s.length := by
  unfold readNamed? at h
  split at h
  · rename_i hdrop
    obtain ⟨_, _, heq⟩ := Option.map_eq_some_iff.1 h
    have hle := (List.dropWhile_suffix (l := s) Char.isAlphanum).length_le
    rw [hdrop, List.length_cons] at hle
    obtain ⟨rfl, rfl⟩ := Prod.mk.inj heq
    exact hle
  · simp at h

/-- A reference takes up some of the text behind its ampersand. -/
theorem length_lt_of_readReference? {s rest : Text} {c : Char}
    (h : readReference? s = some (c, rest)) : rest.length < s.length := by
  unfold readReference? at h
  split at h
  · exact Nat.lt_succ_of_lt (Nat.lt_succ_of_lt (length_lt_of_readNumbered? h))
  · exact Nat.lt_succ_of_lt (Nat.lt_succ_of_lt (length_lt_of_readNumbered? h))
  · exact Nat.lt_succ_of_lt (length_lt_of_readNumbered? h)
  · exact length_lt_of_readNamed? h

/-- A text with every character reference replaced by the character it stands for. -/
def decodeReferences : Text → Text
  | [] => []
  | '&' :: s =>
    match _h : readReference? s with
    | some (c, rest) => c :: decodeReferences rest
    | none => '&' :: decodeReferences s
  | c :: s => c :: decodeReferences s
termination_by s => s.length
decreasing_by
  · exact Nat.lt_succ_of_lt (length_lt_of_readReference? _h)
  · simp
  · simp

end ApiReference.Markup
