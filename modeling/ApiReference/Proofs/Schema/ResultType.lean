import ApiReference.Proofs.Text.Run
import ApiReference.Schema.ResultPhrase

/-!
# Types that phrases name

A phrase names a type by a capitalized word with any number of `Array of` before it. At one place of
a text several types can start: `Array of Update` starts with the types `Array`, `Array of U` and
others. The one that is read has the most words of arrays, and behind them the longest word, so that
none of the others is longer. When it is known that no letter and no `of` follows, it is the whole.

## Main definitions

* `NamedType`: a type as it is named in prose.

## Main results

* `isSome_readType?`: a type is read where there is one.
* `exists_longest_of_readType?`: what is read is the longest type.
* `readType?_text_append`: a type is read as a whole when nothing goes on behind it.
-/

namespace ApiReference.Schema

open Text

/-- An ASCII capital followed by ASCII letters and digits. -/
def IsCapitalized (word : Text) : Prop :=
  ∃ c rest, word = c :: rest ∧ c.isUpper ∧ ∀ d ∈ rest, d.isAlphanum

theorem IsCapitalized.all_isAlphanum {word : Text} (h : IsCapitalized word) :
    ∀ c ∈ word, c.isAlphanum := by
  obtain ⟨c, rest, rfl, hc, hrest⟩ := h
  have halpha : c.isAlphanum := by
    change (c.isUpper || c.isLower || c.isDigit) = true
    rw [hc, Bool.true_or, Bool.true_or]
  exact List.forall_mem_cons.2 ⟨halpha, hrest⟩

/-- A type as it is named in prose: a capitalized word behind a number of `Array of`. -/
structure NamedType where
  dimensions : Nat
  word : Text
  isCapitalized : IsCapitalized word

namespace NamedType

/-- The text of a type. -/
def text (type : NamedType) : Text :=
  (List.replicate type.dimensions arrayOf).flatten ++ type.word

/-- The arrays whose elements are of a type. -/
def array (element : NamedType) : NamedType where
  dimensions := element.dimensions + 1
  word := element.word
  isCapitalized := element.isCapitalized

@[simp] theorem text_array (element : NamedType) :
    element.array.text = arrayOf ++ element.text := by
  simp [text, array, List.replicate_succ]

/-- A type is a capitalized word or an array. -/
@[elab_as_elim]
theorem induction {motive : NamedType → Prop} (word : ∀ word h, motive ⟨0, word, h⟩)
    (array : ∀ element, motive element → motive element.array) (type : NamedType) :
    motive type := by
  obtain ⟨dimensions, name, h⟩ := type
  induction dimensions with
  | zero => exact word name h
  | succ dimensions ih => exact array ⟨dimensions, name, h⟩ ih

/-- A type starts with a capital. -/
theorem exists_text_eq_cons (type : NamedType) : ∃ c rest, type.text = c :: rest ∧ c.isUpper := by
  induction type using NamedType.induction with
  | word word h =>
    obtain ⟨c, rest, rfl, hc, -⟩ := h
    exact ⟨c, rest, rfl, hc⟩
  | array element ih => exact ⟨'A', _, text_array element, rfl⟩

/-- Each of the words of arrays brings two spaces. -/
theorem count_space_text (type : NamedType) : type.text.count ' ' = 2 * type.dimensions := by
  induction type using NamedType.induction with
  | word word h =>
    refine List.count_eq_zero.2 fun hspace ↦ ?_
    exact absurd (h.all_isAlphanum _ hspace) (by decide)
  | array element ih =>
    have hcount : arrayOf.count ' ' = 2 := by decide
    have hdimensions : element.array.dimensions = element.dimensions + 1 := rfl
    rw [text_array, List.count_append, ih, hcount, hdimensions]
    omega

/-- A type that a text starts with is the longest when every other one there has no more words of
arrays and is not longer. -/
def IsLongestIn (type : NamedType) (s : Text) : Prop :=
  ∀ other : NamedType, other.text <+: s →
    other.dimensions ≤ type.dimensions ∧ other.text.length ≤ type.text.length

end NamedType

variable {s rest word behind : Text}

/-! ### Capitalized words -/

/-- A capitalized word is read as far as there are letters and digits. -/
theorem readCapitalized?_eq_some_iff :
    readCapitalized? s = some (word, behind) ↔
      s = word ++ behind ∧ IsCapitalized word ∧ ∀ c ∈ behind.head?, c.isAlphanum = false := by
  constructor
  · intro h
    cases s with
    | nil => simp [readCapitalized?] at h
    | cons c s =>
      rw [readCapitalized?] at h
      split at h
      · rename_i hc
        cases h
        refine ⟨by simp, ⟨c, _, rfl, hc, List.all_eq_true.1 List.all_takeWhile⟩, fun d hd ↦ ?_⟩
        have hstop := List.head?_dropWhile_not Char.isAlphanum s
        rw [Option.mem_def.1 hd] at hstop
        exact hstop
      · simp at h
  · rintro ⟨rfl, ⟨c, rest, rfl, hc, hrest⟩, hbehind⟩
    rw [List.cons_append, readCapitalized?, if_pos hc, takeWhile_append_stop hrest hbehind,
      dropWhile_append_stop hrest hbehind]

/-- A word is read where a capitalized word starts. -/
theorem isSome_readCapitalized? (h : IsCapitalized word) (rest : Text) :
    (readCapitalized? (word ++ rest)).isSome := by
  obtain ⟨c, word, rfl, hc, -⟩ := h
  rw [List.cons_append, readCapitalized?, if_pos hc]
  rfl

/-- The word that is read is the longest. -/
theorem length_le_of_readCapitalized? {word' behind' : Text}
    (h : readCapitalized? s = some (word, behind)) (hword' : IsCapitalized word')
    (hs : s = word' ++ behind') : word'.length ≤ word.length := by
  obtain ⟨rfl, hword, hbehind⟩ := readCapitalized?_eq_some_iff.1 h
  have hrun : word = word' ++ behind'.takeWhile Char.isAlphanum := by
    rw [← List.takeWhile_append_of_pos hword'.all_isAlphanum, ← hs,
      takeWhile_append_stop hword.all_isAlphanum hbehind]
  rw [hrun, List.length_append]
  exact Nat.le_add_right _ _

/-! ### Types -/

theorem readType?_of_after?_eq_none (h : after? arrayOf s = none) :
    readType? s = readCapitalized? s := by
  rw [readType?]
  split
  · rfl
  · rename_i elements helements
    rw [h] at helements
    cases helements

theorem readType?_arrayOf_append (elements : Text) :
    readType? (arrayOf ++ elements) =
      match readType? elements with
      | some (element, behind) => some (arrayOf ++ element, behind)
      | none => readCapitalized? (arrayOf ++ elements) := by
  have hafter : after? arrayOf (arrayOf ++ elements) = some elements := after?_eq_some_iff.2 rfl
  rw [readType?]
  split
  · rename_i hnone
    rw [hafter] at hnone
    cases hnone
  · rename_i found hfound
    rw [hafter] at hfound
    obtain rfl := Option.some.inj hfound
    rfl

/-- A type is read where one starts. -/
theorem isSome_readType? (type : NamedType) (rest : Text) :
    (readType? (type.text ++ rest)).isSome := by
  induction type using NamedType.induction with
  | word word h =>
    have htext : NamedType.text ⟨0, word, h⟩ = word := rfl
    rw [htext]
    cases hafter : after? arrayOf (word ++ rest) with
    | none =>
      rw [readType?_of_after?_eq_none hafter]
      exact isSome_readCapitalized? h rest
    | some elements =>
      have hword := isSome_readCapitalized? h rest
      rw [after?_eq_some_iff] at hafter
      rw [hafter] at hword ⊢
      rw [readType?_arrayOf_append]
      split
      · rfl
      · exact hword
  | array element ih =>
    obtain ⟨⟨text, behind⟩, hread⟩ := Option.isSome_iff_exists.1 ih
    rw [NamedType.text_array, List.append_assoc, readType?_arrayOf_append, hread]
    rfl

/-- A capitalized word is not longer than the words of arrays where both start. -/
theorem length_le_of_arrayOf_prefix (hword : IsCapitalized word) (hs : word <+: s)
    (harray : arrayOf <+: s) : word.length ≤ arrayOf.length := by
  rcases List.prefix_or_prefix_of_prefix hs harray with hprefix | hprefix
  · exact hprefix.length_le
  · have hspace : ' ' ∈ word := hprefix.subset (by decide)
    exact absurd (hword.all_isAlphanum _ hspace) (by decide)

/-- The word that is read is the longest type when no array starts there. -/
theorem isLongestIn_of_readCapitalized? (h : readCapitalized? s = some (word, behind))
    (harray : ∀ element : NamedType, ¬ arrayOf ++ element.text <+: s) (hword : IsCapitalized word) :
    NamedType.IsLongestIn ⟨0, word, hword⟩ s := by
  intro other hother
  cases other using NamedType.induction with
  | word word' hword' =>
    obtain ⟨behind', hs⟩ := hother
    exact ⟨Nat.le_refl 0, length_le_of_readCapitalized? h hword' hs.symm⟩
  | array element =>
    rw [NamedType.text_array] at hother
    exact absurd hother (harray element)

/-- What is read is the longest type. -/
theorem exists_longest_of_readType? {read : Text} (h : readType? s = some (read, behind)) :
    ∃ type : NamedType, type.text = read ∧ s = read ++ behind ∧ type.IsLongestIn s := by
  fun_induction readType? s generalizing read behind with
  | case1 s hafter =>
    obtain ⟨hs, hword, -⟩ := readCapitalized?_eq_some_iff.1 h
    refine ⟨⟨0, read, hword⟩, rfl, hs, isLongestIn_of_readCapitalized? h ?_ hword⟩
    rintro element ⟨rest, hrest⟩
    rw [List.append_assoc] at hrest
    rw [after?_eq_some_iff.2 hrest.symm] at hafter
    cases hafter
  | case2 s elements hafter element behind' hread ih =>
    obtain ⟨rfl, rfl⟩ := Prod.mk.inj (Option.some.inj h)
    obtain ⟨type, rfl, rfl, hlongest⟩ := ih hread
    have hs := after?_eq_some_iff.1 hafter
    refine ⟨type.array, type.text_array, by rw [hs, List.append_assoc], fun other hother ↦ ?_⟩
    cases other using NamedType.induction with
    | word word hword =>
      have hle := length_le_of_arrayOf_prefix hword hother ⟨_, hs.symm⟩
      rw [NamedType.text_array, List.length_append]
      exact ⟨Nat.zero_le _, Nat.le_add_right_of_le hle⟩
    | array element =>
      rw [NamedType.text_array, hs, List.prefix_append_right_inj] at hother
      obtain ⟨hdimensions, hlength⟩ := hlongest element hother
      rw [NamedType.text_array, NamedType.text_array, List.length_append, List.length_append]
      exact ⟨Nat.succ_le_succ hdimensions, Nat.add_le_add_left hlength _⟩
  | case3 s elements hafter hread ih =>
    obtain ⟨hs, hword, -⟩ := readCapitalized?_eq_some_iff.1 h
    refine ⟨⟨0, read, hword⟩, rfl, hs, isLongestIn_of_readCapitalized? h ?_ hword⟩
    intro element hprefix
    rw [after?_eq_some_iff.1 hafter, List.prefix_append_right_inj] at hprefix
    obtain ⟨rest, rfl⟩ := hprefix
    have hsome := isSome_readType? element rest
    rw [hread] at hsome
    cases hsome

/-- A type is read as a whole when neither a letter or digit nor an `of` goes on behind it. -/
theorem readType?_text_append (type : NamedType) (hstop : ∀ c ∈ rest.head?, c.isAlphanum = false)
    (hof : ¬ (" of " : Text) <+: rest) :
    readType? (type.text ++ rest) = some (type.text, rest) := by
  induction type using NamedType.induction with
  | word word hcapitalized =>
    have hread : readCapitalized? (word ++ rest) = some (word, rest) :=
      readCapitalized?_eq_some_iff.2 ⟨rfl, hcapitalized, hstop⟩
    have hnone : after? arrayOf (word ++ rest) = none := by
      refine Option.eq_none_iff_forall_ne_some.2 fun elements helements ↦ hof ?_
      -- The word would be `Array`, since both are the run of letters at the start.
      have hword := congrArg (List.dropWhile Char.isAlphanum) (after?_eq_some_iff.1 helements)
      have harray : (arrayOf ++ elements).dropWhile Char.isAlphanum = (" of " : Text) ++ elements :=
        dropWhile_append_stop (s := "Array") (List.all_eq_true.1 rfl) (by simp; decide)
      rw [dropWhile_append_stop hcapitalized.all_isAlphanum hstop, harray] at hword
      exact ⟨elements, hword.symm⟩
    exact (readType?_of_after?_eq_none hnone).trans hread
  | array element ih => rw [NamedType.text_array, List.append_assoc, readType?_arrayOf_append, ih]

end ApiReference.Schema
