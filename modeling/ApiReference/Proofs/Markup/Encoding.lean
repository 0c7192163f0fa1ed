import ApiReference.Proofs.Markup.Escape
import ApiReference.Proofs.Text.Numeral
import ApiReference.Proofs.Text.Run
import Mathlib.Data.List.Infix

/-!
# Encodings of a text

A text can be written with references in it: any character as a reference to it, by name or by
number, and any character but the ampersand as it is. Decoding gives the text back, whichever way
each character is written. It replaces the references that are there and nothing else, each of them
by itself: as a reference has no ampersand behind its first character, it neither reaches into
another one nor is it part of one, and the character it stands for is not read again.

## Main definitions

* `IsReferenceTo`: the references to a character.
* `Encodes`: a text is written in some way.
* `HasNoReference`: a text without references.

## Main results

* `readReference?_eq_some_iff`: what is read is a reference.
* `decodeReferences_append`: texts are decoded apart when no reference can reach from one into the
  other.
* `decodeReferences_of_encodes`, `decodeReferences_eq_self`, `decodeReferences_reference`: texts in
  any encoding, texts without references, and a reference anywhere.
* `decodeReferences_undoes_encoding`: decoding undoes every encoding and does nothing else.
-/

namespace ApiReference.Markup

open Text

variable {c mark : Char} {s t rest encoded name digits reference : Text}

/-- The references to a character: by one of its names, and by the numerals of its code point in
base ten and in base sixteen. -/
inductive IsReferenceTo (c : Char) : Text → Prop
  | named (name : Text) (h : (name, c) ∈ namedCharacters) : IsReferenceTo c ('&' :: (name ++ [';']))
  | decimal (digits : Text) (h : IsNumeral 10 c.toNat digits) :
      IsReferenceTo c ('&' :: '#' :: (digits ++ [';']))
  | hexadecimal (mark : Char) (digits : Text) (hmark : mark = 'x' ∨ mark = 'X')
      (h : IsNumeral 16 c.toNat digits) :
      IsReferenceTo c ('&' :: '#' :: mark :: (digits ++ [';']))

/-- A text encodes another one: each character of this is written as it is, unless it is an
ampersand, or as any reference to it. -/
inductive Encodes : Text → Text → Prop
  | nil : Encodes [] []
  | literal {encoded s : Text} (c : Char) (hc : c ≠ '&') (h : Encodes encoded s) :
      Encodes (c :: encoded) (c :: s)
  | reference {encoded s : Text} (c : Char) (reference : Text)
      (hreference : IsReferenceTo c reference) (h : Encodes encoded s) :
      Encodes (reference ++ encoded) (c :: s)

/-- A text in which no reference occurs. -/
def HasNoReference (s : Text) : Prop :=
  ∀ c reference, IsReferenceTo c reference → ¬ reference <:+: s

/-! ### Numbers and names -/

theorem charOfCode?_eq_some_iff {n : Nat} : charOfCode? n = some c ↔ n = c.toNat := by
  rw [charOfCode?, Option.ite_none_right_eq_some, Option.some.injEq]
  constructor
  · rintro ⟨hn, rfl⟩
    have hchar : Char.ofNat n = Char.ofNatAux n hn := dif_pos hn
    rw [hchar]
    rfl
  · rintro rfl
    exact ⟨c.valid, Char.ofNat_toNat c⟩

/-- A character is read by its number when a numeral of it stands there. -/
theorem readNumbered?_eq_some_iff {base : Nat} {isDigit : Char → Bool}
    (h : IsDigitOf base isDigit) (hend : isDigit ';' = false) :
    readNumbered? base isDigit s = some (c, rest) ↔
      ∃ digits, IsNumeral base c.toNat digits ∧ s = digits ++ ';' :: rest := by
  simp only [isNumeral_iff h]
  constructor
  · intro hread
    unfold readNumbered? at hread
    split at hread
    · rename_i digit digits rest' hdigits hrest
      obtain ⟨c', hvalue, heq⟩ := Option.map_eq_some_iff.1 hread
      obtain ⟨rfl, rfl⟩ := Prod.mk.inj heq
      refine ⟨digit :: digits, ⟨List.cons_ne_nil _ _, ?_, charOfCode?_eq_some_iff.1 hvalue⟩, ?_⟩
      · rw [← hdigits]
        exact List.all_eq_true.1 List.all_takeWhile
      · rw [← hdigits, ← hrest, List.takeWhile_append_dropWhile]
    · cases hread
  · rintro ⟨digits, ⟨hne, hdigits, hvalue⟩, rfl⟩
    have hstop : ∀ d ∈ (';' :: rest).head?, isDigit d = false := by simpa using hend
    obtain ⟨digit, digits, rfl⟩ := List.exists_cons_of_ne_nil hne
    rw [readNumbered?, takeWhile_append_stop hdigits hstop, dropWhile_append_stop hdigits hstop]
    simp [charOfCode?_eq_some_iff.2 hvalue]

/-- The names of characters are words of letters and digits, and none of them is the name of two. -/
theorem namedCharacters_spec : ∀ entry ∈ namedCharacters, entry.1 ≠ [] ∧
    entry.1.all Char.isAlphanum ∧ namedCharacters.lookup entry.1 = some entry.2 := by
  decide +kernel

/-- A character is read by its name when a name of it stands there. -/
theorem readNamed?_eq_some_iff :
    readNamed? s = some (c, rest) ↔
      ∃ name, (name, c) ∈ namedCharacters ∧ s = name ++ ';' :: rest := by
  constructor
  · intro hread
    unfold readNamed? at hread
    split at hread
    · rename_i rest' hrest
      obtain ⟨c', hlookup, heq⟩ := Option.map_eq_some_iff.1 hread
      obtain ⟨rfl, rfl⟩ := Prod.mk.inj heq
      obtain ⟨front, back, hnames, -⟩ := List.lookup_eq_some_iff.1 hlookup
      refine ⟨s.takeWhile Char.isAlphanum, by rw [hnames]; simp, ?_⟩
      rw [← hrest, List.takeWhile_append_dropWhile]
    · cases hread
  · rintro ⟨name, hname, rfl⟩
    obtain ⟨-, halphanum, hlookup⟩ := namedCharacters_spec _ hname
    have hstop : ∀ d ∈ (';' :: rest).head?, d.isAlphanum = false := by simp
    have hall := List.all_eq_true.1 halphanum
    rw [readNamed?, takeWhile_append_stop hall hstop, dropWhile_append_stop hall hstop]
    simp [hlookup]

/-! ### References -/

theorem readReference?_eq_readNamed? (h : s.head? ≠ some '#') :
    readReference? s = readNamed? s := by
  unfold readReference?
  split <;> simp_all

theorem readReference?_hash (h : ∀ d ∈ s.head?, d ≠ 'x' ∧ d ≠ 'X') :
    readReference? ('#' :: s) = readNumbered? 10 Char.isDigit s := by
  unfold readReference?
  split <;> simp_all

theorem readReference?_mark (hmark : mark = 'x' ∨ mark = 'X') (s : Text) :
    readReference? ('#' :: mark :: s) = readNumbered? 16 isHexDigit s := by
  rcases hmark with rfl | rfl <;> rfl

/-- A reference is read where one stands, whatever is behind it. -/
theorem IsReferenceTo.exists_eq_cons (h : IsReferenceTo c reference) :
    ∃ body, reference = '&' :: body ∧ ∀ rest, readReference? (body ++ rest) = some (c, rest) := by
  cases h with
  | named name hname =>
    refine ⟨_, rfl, fun rest ↦ ?_⟩
    obtain ⟨hne, halphanum, -⟩ := namedCharacters_spec _ hname
    have hhead : (name ++ [';'] ++ rest).head? ≠ some '#' := by
      obtain ⟨d, name, rfl⟩ := List.exists_cons_of_ne_nil hne
      have hd := List.all_eq_true.1 halphanum d List.mem_cons_self
      rintro ⟨⟩
      cases hd
    rw [readReference?_eq_readNamed? hhead]
    exact readNamed?_eq_some_iff.2 ⟨name, hname, by simp⟩
  | decimal digits hdigits =>
    refine ⟨_, rfl, fun rest ↦ ?_⟩
    obtain ⟨hne, hall, -⟩ := (isNumeral_iff isDigitOf_ten).1 hdigits
    have hhead : ∀ d ∈ (digits ++ [';'] ++ rest).head?, d ≠ 'x' ∧ d ≠ 'X' := by
      obtain ⟨d, digits, rfl⟩ := List.exists_cons_of_ne_nil hne
      have hd := hall d List.mem_cons_self
      rintro _ ⟨⟩
      constructor <;> (rintro rfl; cases hd)
    rw [List.cons_append, readReference?_hash hhead]
    exact (readNumbered?_eq_some_iff isDigitOf_ten rfl).2 ⟨digits, hdigits, by simp⟩
  | hexadecimal mark digits hmark hdigits =>
    refine ⟨_, rfl, fun rest ↦ ?_⟩
    rw [List.cons_append, List.cons_append, readReference?_mark hmark]
    exact (readNumbered?_eq_some_iff isDigitOf_sixteen rfl).2 ⟨digits, hdigits, by simp⟩

/-- What is read behind an ampersand is a reference. -/
theorem readReference?_eq_some_iff :
    readReference? s = some (c, rest) ↔
      ∃ reference, IsReferenceTo c reference ∧ '&' :: s = reference ++ rest := by
  constructor
  · intro hread
    unfold readReference? at hread
    split at hread
    · rename_i s
      obtain ⟨digits, hdigits, rfl⟩ := (readNumbered?_eq_some_iff isDigitOf_sixteen rfl).1 hread
      exact ⟨_, .hexadecimal 'x' digits (.inl rfl) hdigits, by simp⟩
    · rename_i s
      obtain ⟨digits, hdigits, rfl⟩ := (readNumbered?_eq_some_iff isDigitOf_sixteen rfl).1 hread
      exact ⟨_, .hexadecimal 'X' digits (.inr rfl) hdigits, by simp⟩
    · rename_i s _ _
      obtain ⟨digits, hdigits, rfl⟩ := (readNumbered?_eq_some_iff isDigitOf_ten rfl).1 hread
      exact ⟨_, .decimal digits hdigits, by simp⟩
    · obtain ⟨name, hname, rfl⟩ := readNamed?_eq_some_iff.1 hread
      exact ⟨_, .named name hname, by simp⟩
  · rintro ⟨reference, hreference, hs⟩
    obtain ⟨body, rfl, hread⟩ := hreference.exists_eq_cons
    rw [List.cons_append, List.cons.injEq] at hs
    rw [hs.2, hread]

/-- A text has no reference exactly when none is read behind any of its ampersands. -/
theorem hasNoReference_iff :
    HasNoReference s ↔ ∀ t ∈ s.tails, t.head? = some '&' → readReference? t.tail = none := by
  simp only [List.mem_tails]
  constructor
  · intro hnone t ht hhead
    obtain ⟨t, rfl⟩ := List.head?_eq_some_iff.1 hhead
    refine Option.eq_none_iff_forall_ne_some.2 fun ⟨c, rest⟩ hread ↦ ?_
    obtain ⟨reference, hreference, heq⟩ := readReference?_eq_some_iff.1 hread
    have hstart : reference <+: '&' :: t := ⟨rest, heq.symm⟩
    exact hnone c reference hreference (hstart.isInfix.trans ht.isInfix)
  · rintro hnone c reference hreference ⟨before, behind, rfl⟩
    obtain ⟨body, rfl, hread⟩ := hreference.exists_eq_cons
    have hfound := hnone ('&' :: (body ++ behind)) ⟨before, by simp⟩ rfl
    rw [List.tail_cons, hread behind] at hfound
    cases hfound

instance (s : Text) : Decidable (HasNoReference s) := decidable_of_iff _ hasNoReference_iff.symm

/-! ### Decoding -/

/-- Whether a character may stand in a reference behind the ampersand. -/
def isReferenceChar (c : Char) : Bool := c.isAlphanum || c == '#' || c == ';'

theorem IsReferenceTo.isReferenceChar_of_mem (h : IsReferenceTo c reference) :
    ∀ d ∈ reference.tail, isReferenceChar d := by
  have hend : isReferenceChar ';' := rfl
  have halphanum {d : Char} (hd : d.isAlphanum) : isReferenceChar d := by
    simp [isReferenceChar, hd]
  cases h with
  | named name hname =>
    have hall := List.all_eq_true.1 (namedCharacters_spec _ hname).2.1
    exact List.forall_mem_append.2 ⟨fun d hd ↦ halphanum (hall d hd), by simpa using hend⟩
  | decimal digits hdigits =>
    have hall := ((isNumeral_iff isDigitOf_ten).1 hdigits).2.1
    refine List.forall_mem_cons.2 ⟨rfl, List.forall_mem_append.2 ⟨fun d hd ↦ ?_, ?_⟩⟩
    · exact halphanum (Unicode.isAlphanum_iff.2 (.inr (.inr (hall d hd))))
    · simpa using hend
  | hexadecimal mark digits hmark hdigits =>
    have hall := ((isNumeral_iff isDigitOf_sixteen).1 hdigits).2.1
    have hmark' : isReferenceChar mark := by rcases hmark with rfl | rfl <;> rfl
    refine List.forall_mem_cons.2 ⟨rfl, List.forall_mem_cons.2
      ⟨hmark', List.forall_mem_append.2 ⟨fun d hd ↦ ?_, by simpa using hend⟩⟩⟩
    exact halphanum (isAlphanum_of_isHexDigit (hall d hd))

/-- No reference reaches beyond a character that stands in none. -/
theorem readReference?_append (ht : ∀ d ∈ t.head?, isReferenceChar d = false) :
    readReference? (s ++ t) = (readReference? s).map fun (c, rest) ↦ (c, rest ++ t) := by
  cases hread : readReference? s with
  | some found =>
    obtain ⟨c, rest⟩ := found
    obtain ⟨reference, hreference, hs⟩ := readReference?_eq_some_iff.1 hread
    refine readReference?_eq_some_iff.2 ⟨reference, hreference, ?_⟩
    rw [← List.cons_append, hs, List.append_assoc]
  | none =>
    refine Option.eq_none_iff_forall_ne_some.2 fun ⟨c, rest⟩ happend ↦ ?_
    obtain ⟨reference, hreference, hs⟩ := readReference?_eq_some_iff.1 happend
    have hnot (rest : Text) : '&' :: s ≠ reference ++ rest := fun heq ↦ by
      rw [readReference?_eq_some_iff.2 ⟨reference, hreference, heq⟩] at hread
      cases hread
    rw [← List.cons_append] at hs
    -- The reference would end in the first text, or else the second would start in it.
    rcases List.append_eq_append_iff.1 hs with ⟨_ | ⟨d, more⟩, heq, rfl⟩ | ⟨rest, heq, -⟩
    · exact hnot [] (by rw [heq, List.append_nil, List.append_nil])
    · have hd : d ∈ reference.tail := by rw [heq]; simp
      have hstop := ht d rfl
      rw [hreference.isReferenceChar_of_mem d hd] at hstop
      cases hstop
    · exact hnot rest heq

theorem decodeReferences_ampersand_of_eq_none (h : readReference? s = none) :
    decodeReferences ('&' :: s) = '&' :: decodeReferences s := by
  rw [decodeReferences]
  split <;> simp_all

/-- Two texts are decoded apart when the second starts with a character that stands in no
reference. -/
theorem decodeReferences_append (ht : ∀ d ∈ t.head?, isReferenceChar d = false) :
    decodeReferences (s ++ t) = decodeReferences s ++ decodeReferences t := by
  fun_induction decodeReferences s with
  | case1 => rfl
  | case2 s c rest hread ih =>
    have happend : readReference? (s ++ t) = some (c, rest ++ t) := by
      rw [readReference?_append ht, hread]
      rfl
    rw [List.cons_append, decodeReferences_ampersand happend, ih, List.cons_append]
  | case3 s hread ih =>
    have happend : readReference? (s ++ t) = none := by
      rw [readReference?_append ht, hread]
      rfl
    rw [List.cons_append, decodeReferences_ampersand_of_eq_none happend, ih, List.cons_append]
  | case4 c s hc ih => rw [List.cons_append, decodeReferences_cons_of_ne hc, ih, List.cons_append]

/-- A reference at the start is decoded to its character, and what is behind it by itself. -/
theorem decodeReferences_reference_append (h : IsReferenceTo c reference) (rest : Text) :
    decodeReferences (reference ++ rest) = c :: decodeReferences rest := by
  obtain ⟨body, rfl, hread⟩ := h.exists_eq_cons
  exact decodeReferences_ampersand (hread rest)

/-- A reference is decoded wherever it stands, and what is before it and behind it by itself. -/
theorem decodeReferences_reference (h : IsReferenceTo c reference) (before behind : Text) :
    decodeReferences (before ++ (reference ++ behind)) =
      decodeReferences before ++ c :: decodeReferences behind := by
  have hstart : ∀ d ∈ (reference ++ behind).head?, isReferenceChar d = false := by
    obtain ⟨body, rfl, -⟩ := h.exists_eq_cons
    rintro d ⟨⟩
    rfl
  rw [decodeReferences_append hstart, decodeReferences_reference_append h]

/-- Any encoding of a text is decoded to the text. -/
theorem decodeReferences_of_encodes (h : Encodes encoded s) : decodeReferences encoded = s := by
  induction h with
  | nil => rw [decodeReferences]
  | literal c hc _ ih => rw [decodeReferences_cons_of_ne hc, ih]
  | reference c reference hreference _ ih => rw [decodeReferences_reference_append hreference, ih]

/-- A text without references is left as it is. -/
theorem decodeReferences_eq_self (h : HasNoReference s) : decodeReferences s = s := by
  have htail {c : Char} {s : Text} (h : HasNoReference (c :: s)) : HasNoReference s :=
    fun d reference hreference hinfix ↦ h d reference hreference (List.infix_cons hinfix)
  fun_induction decodeReferences s with
  | case1 => rfl
  | case2 s c rest hread ih =>
    obtain ⟨reference, hreference, hs⟩ := readReference?_eq_some_iff.1 hread
    exact absurd (hs ▸ (List.prefix_append reference rest).isInfix) (h c reference hreference)
  | case3 s hread ih => rw [ih (htail h)]
  | case4 c s hc ih => rw [ih (htail h)]

/-- Decoding undoes every encoding of a text: whichever reference is written for a character, with
any zeros in front of its number and letters of either case in it, the character comes back. It
changes nothing in a text without references. And it is a single pass, since a reference is decoded
wherever it stands, and its character is not read again with what is around it. -/
theorem decodeReferences_undoes_encoding :
    (∀ s encoded, Encodes encoded s → decodeReferences encoded = s) ∧
    (∀ s, HasNoReference s → decodeReferences s = s) ∧
    ∀ before c reference behind, IsReferenceTo c reference →
      decodeReferences (before ++ (reference ++ behind)) =
        decodeReferences before ++ c :: decodeReferences behind :=
  ⟨fun _ _ ↦ decodeReferences_of_encodes, fun _ ↦ decodeReferences_eq_self,
    fun before _ _ behind h ↦ decodeReferences_reference h before behind⟩

/-- What looks like a reference behind `&amp;`, numbers with zeros and capitals, and what is no
reference: a surrogate, a number that is too large, an unknown name and a lost semicolon. -/
theorem decodeReferences_of_nested :
    decodeReferences "&amp;lt;&#0060;&#X003C;b" = ("&lt;<<b" : Text) ∧
      decodeReferences "&#xD800;&#4294967356;&nope;&lt" =
        ("&#xD800;&#4294967356;&nope;&lt" : Text) ∧
      decodeReferences "&am&lt;p;" = decodeReferences "&am" ++ '<' :: decodeReferences "p;" := by
  have hamp : IsReferenceTo '&' "&amp;" := .named "amp" (by decide)
  have hless : IsReferenceTo '<' "&lt;" := .named "lt" (by decide)
  have hdecimal : IsReferenceTo '<' "&#0060;" := .decimal "0060" ⟨2, "60".toList, rfl, rfl⟩
  have hhexadecimal : IsReferenceTo '<' "&#X003C;" :=
    .hexadecimal 'X' "003C" (.inr rfl) ⟨2, "3C".toList, rfl, by decide⟩
  have hencodes : Encodes "&amp;lt;&#0060;&#X003C;b" "&lt;<<b" :=
    .reference '&' _ hamp <| .literal 'l' (by decide) <| .literal 't' (by decide) <|
      .literal ';' (by decide) <| .reference '<' _ hdecimal <| .reference '<' _ hhexadecimal <|
      .literal 'b' (by decide) .nil
  exact ⟨decodeReferences_undoes_encoding.1 _ _ hencodes,
    decodeReferences_undoes_encoding.2.1 _ (by decide +kernel),
    decodeReferences_undoes_encoding.2.2 "&am" '<' _ "p;" hless⟩

end ApiReference.Markup
