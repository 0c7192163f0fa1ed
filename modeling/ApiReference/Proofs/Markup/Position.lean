import ApiReference.Proofs.Markup.TokenReading
import Mathlib.Data.List.Infix

/-!
# Positions in markup

What is read of some markup is read from a text, and what is left is a text again. How far reading
has come is also told by a position: the number of characters before it. Here every position is the
one before it and the length of what is passed over, and no such sum is cut off where the markup
ends. So it has to be shown of each of them that it does not go beyond the end, and that what stands
at the new position is what the reader of texts leaves.

## Main definitions

* `StandsAt`: a text stands at a position of some markup and reaches to the end of it.
* `endOfRun`, `endOfFirst`: the positions behind a run of characters and behind a pattern.
* `endOfAttribute`, `endOfEndTag`, `endOfText`, `endOfIgnored?`: the positions behind the parts of
  markup.

## Main results

* `StandsAt.add_length_eq`: a position and what stands there make up the markup.
* `StandsAt.endOfAttribute`, `StandsAt.endOfEndTag`, `StandsAt.endOfText`, `StandsAt.endOfIgnored?`:
  what stands behind the parts of markup.
* `exists_eq_of_readRawText_ne_nil`: the content of a raw-text element ends in front of a `</`.
-/

namespace ApiReference.Markup

open Text

/-- A text stands at a position of some markup and reaches to the end of it. The position may be the
end itself, where the empty text stands. -/
structure StandsAt (markup : Text) (position : Nat) (s : Text) : Prop where
  le_length : position ≤ markup.length
  drop_eq : markup.drop position = s

variable {markup s t name pattern : Text} {position : Nat} {c : Char}

namespace StandsAt

theorem ofMarkup (markup : Text) : StandsAt markup 0 markup := ⟨Nat.zero_le _, rfl⟩

theorem add_length_eq (h : StandsAt markup position s) : position + s.length = markup.length := by
  rw [← h.drop_eq, List.length_drop]
  exact Nat.add_sub_cancel' h.le_length

/-- A position moves on by the length of what stands at it first. -/
theorem add_length (h : StandsAt markup position (s ++ t)) :
    StandsAt markup (position + s.length) t := by
  have hlength := h.add_length_eq
  rw [List.length_append] at hlength
  refine ⟨by omega, ?_⟩
  rw [← List.drop_drop, h.drop_eq, List.drop_left]

theorem add_one (h : StandsAt markup position (c :: s)) : StandsAt markup (position + 1) s :=
  h.add_length (s := [c])

end StandsAt

/-! ### Runs and patterns -/

/-- The position behind the run of characters of one kind that starts at a position. -/
def endOfRun (p : Char → Bool) (markup : Text) (position : Nat) : Nat :=
  position + ((markup.drop position).takeWhile p).length

/-- The position behind the first occurrence of a pattern from a position on. Where there is none it
is behind all that is left. -/
def endOfFirst (pattern markup : Text) (position : Nat) : Nat :=
  match (markup.drop position).tails.findIdx? pattern.isPrefixOf with
  | some index => position + index + pattern.length
  | none => position + (markup.drop position).length

theorem le_endOfRun (p : Char → Bool) (markup : Text) (position : Nat) :
    position ≤ endOfRun p markup position :=
  Nat.le_add_right _ _

theorem StandsAt.endOfRun (h : StandsAt markup position s) (p : Char → Bool) :
    StandsAt markup (endOfRun p markup position) (s.dropWhile p) := by
  rw [Markup.endOfRun, h.drop_eq]
  refine StandsAt.add_length ?_
  rwa [List.takeWhile_append_dropWhile]

theorem exists_eq_append_of_findIdx?_tails {index : Nat}
    (h : s.tails.findIdx? pattern.isPrefixOf = some index) :
    ∃ before, before.length = index ∧ s = before ++ (pattern ++ afterFirst pattern s) := by
  induction s generalizing index with
  | nil =>
    cases pattern with
    | nil => exact ⟨[], by simpa using h, rfl⟩
    | cons p pattern => simp at h
  | cons c s ih =>
    rw [List.tails_cons, List.findIdx?_cons] at h
    split at h
    · rename_i hstart
      obtain ⟨behind, hbehind⟩ := List.isPrefixOf_iff_prefix.1 hstart
      refine ⟨[], Option.some.inj h, ?_⟩
      rw [afterFirst, if_pos hstart, ← hbehind, List.drop_left, List.nil_append]
    · rename_i hstart
      obtain ⟨index, hindex, rfl⟩ := Option.map_eq_some_iff.1 h
      obtain ⟨before, hlength, hs⟩ := ih hindex
      refine ⟨c :: before, congrArg Nat.succ hlength, ?_⟩
      rw [afterFirst, if_neg hstart, List.cons_append, ← hs]

theorem afterFirst_of_findIdx?_tails (h : s.tails.findIdx? pattern.isPrefixOf = none) :
    afterFirst pattern s = [] := by
  induction s with
  | nil => rfl
  | cons c s ih =>
    rw [List.tails_cons, List.findIdx?_cons] at h
    split at h
    · simp at h
    · rename_i hstart
      rw [afterFirst, if_neg hstart, ih (Option.map_eq_none_iff.1 h)]

theorem StandsAt.endOfFirst (h : StandsAt markup position s) (pattern : Text) :
    StandsAt markup (endOfFirst pattern markup position) (afterFirst pattern s) := by
  rw [Markup.endOfFirst, h.drop_eq]
  split
  · rename_i index hindex
    obtain ⟨before, rfl, hs⟩ := exists_eq_append_of_findIdx?_tails hindex
    rw [hs] at h
    exact h.add_length.add_length
  · rename_i hindex
    rw [afterFirst_of_findIdx?_tails hindex]
    rw [← List.append_nil s] at h
    exact h.add_length

/-- What lies behind a delimiter is what lies behind a pattern of one character. -/
theorem tail_dropWhile_ne (d : Char) (s : Text) : (s.dropWhile (· != d)).tail = afterFirst [d] s := by
  induction s with
  | nil => rfl
  | cons c s ih =>
    by_cases hc : c = d
    · simp [afterFirst, hc]
    · have hd : d ≠ c := Ne.symm hc
      simpa [afterFirst, hc, hd] using ih

theorem StandsAt.endOfDelimiter (h : StandsAt markup position s) (d : Char) :
    StandsAt markup (Markup.endOfFirst [d] markup position) (s.dropWhile (· != d)).tail := by
  rw [tail_dropWhile_ne]
  exact h.endOfFirst [d]

/-! ### Attributes -/

/-- The position behind an attribute's value, in quotes or bare. -/
def endOfValue (markup : Text) (position : Nat) : Nat :=
  match markup.drop position with
  | '"' :: _ => endOfFirst ['"'] markup (position + 1)
  | '\'' :: _ => endOfFirst ['\''] markup (position + 1)
  | _ => endOfRun isBareValueChar markup position

/-- The position behind the value that may follow the name of an attribute. -/
def endOfAssignment (markup : Text) (position : Nat) : Nat :=
  let start := endOfRun Unicode.isBlank markup position
  match markup.drop start with
  | '=' :: _ => endOfValue markup (endOfRun Unicode.isBlank markup (start + 1))
  | _ => start

/-- The position behind an attribute, whose first character is given. -/
def endOfAttribute (c : Char) (markup : Text) (position : Nat) : Nat :=
  endOfAssignment markup
    (if c = '=' then position + 1 else endOfRun isAttributeNameChar markup (position + 1))

theorem StandsAt.endOfValue (h : StandsAt markup position s) :
    StandsAt markup (endOfValue markup position) (readValue s).2 := by
  rw [Markup.endOfValue, h.drop_eq]
  split
  · exact h.add_one.endOfDelimiter '"'
  · exact h.add_one.endOfDelimiter '\''
  · rw [readValue]
    · exact h.endOfRun isBareValueChar
    all_goals assumption

theorem readAssignment_of_ne (h : ∀ rest, s.dropWhile Unicode.isBlank ≠ '=' :: rest) :
    readAssignment s = ([], s.dropWhile Unicode.isBlank) := by
  unfold readAssignment
  split
  · rename_i rest hequals
    exact absurd hequals (h rest)
  · rfl

theorem StandsAt.endOfAssignment (h : StandsAt markup position s) :
    StandsAt markup (endOfAssignment markup position) (readAssignment s).2 := by
  have hstart := h.endOfRun Unicode.isBlank
  simp only [Markup.endOfAssignment, hstart.drop_eq]
  split
  · rename_i rest hequals
    rw [hequals] at hstart
    simp only [readAssignment, hequals]
    exact (hstart.add_one.endOfRun Unicode.isBlank).endOfValue
  · rename_i hequals
    rw [readAssignment_of_ne hequals]
    exact hstart

theorem StandsAt.endOfAttribute (h : StandsAt markup position (c :: s)) :
    StandsAt markup (endOfAttribute c markup position) (readAttribute c s).2 := by
  refine StandsAt.endOfAssignment ?_
  split
  · exact h.add_one
  · rw [drop_length_takeWhile]
    exact h.add_one.endOfRun isAttributeNameChar

/-! ### Tokens -/

/-- The position behind an end tag. -/
def endOfEndTag (markup : Text) (position : Nat) : Nat :=
  endOfFirst ['>'] markup (endOfRun isNameChar markup (position + 2))

/-- The position behind a run of text, whose first character may be a `<`. -/
def endOfText (markup : Text) (position : Nat) : Nat :=
  endOfRun (· != '<') markup (position + 1)

/-- The position behind a comment or declaration, if one stands at a position. -/
def endOfIgnored? (markup : Text) (position : Nat) : Option Nat :=
  match markup.drop position with
  | '<' :: '!' :: '-' :: '-' :: _ => some (endOfFirst ['-', '-', '>'] markup position)
  | '<' :: '!' :: _ => some (endOfFirst ['>'] markup position)
  | '<' :: '?' :: _ => some (endOfFirst ['>'] markup position)
  | _ => none

theorem StandsAt.endOfEndTag (h : StandsAt markup position ('<' :: '/' :: s)) :
    StandsAt markup (endOfEndTag markup position) (readEndTag s).2 :=
  (h.add_one.add_one.endOfRun isNameChar).endOfDelimiter '>'

theorem StandsAt.endOfText (h : StandsAt markup position (c :: s)) :
    StandsAt markup (endOfText markup position) (readText c s).2 :=
  h.add_one.endOfRun _

/-- A comment or declaration stands at a position exactly when it is found in the text there. -/
theorem StandsAt.endOfIgnored? (h : StandsAt markup position s) :
    Option.Rel (StandsAt markup) (endOfIgnored? markup position) (behindIgnored? s) := by
  rw [Markup.endOfIgnored?, h.drop_eq]
  split
  · exact .some (h.endOfFirst ['-', '-', '>'])
  · rw [behindIgnored?]
    · exact .some (h.endOfDelimiter '>')
    assumption
  · exact .some (h.endOfDelimiter '>')
  · rw [behindIgnored?]
    · exact .none
    all_goals assumption

/-! ### Raw text -/

/-- The content of a raw-text element ends in front of a `</`, unless it reaches to the end. -/
theorem exists_eq_of_readRawText_ne_nil (h : (readRawText name s).2 ≠ []) :
    ∃ t, (readRawText name s).2 = '<' :: '/' :: t := by
  induction s with
  | nil => exact absurd rfl h
  | cons c s ih =>
    rw [readRawText] at h ⊢
    split at h
    · rename_i hstart
      obtain ⟨endName, behind, hbehind, -⟩ := exists_eq_append_of_startsEndTag hstart
      exact ⟨endName ++ behind, by rw [if_pos hstart, hbehind]⟩
    · rename_i hstart
      obtain ⟨t, ht⟩ := ih h
      exact ⟨t, by rw [if_neg hstart]; exact ht⟩

end ApiReference.Markup
