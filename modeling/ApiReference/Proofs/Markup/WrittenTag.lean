import ApiReference.Markup.RawText
import ApiReference.Proofs.Markup.Escape
import ApiReference.Proofs.Text.Run

/-!
# Written tags

A start tag and an end tag are written with names in any case of their letters. Behind the name of a
start tag stand its attributes, each with a space in front and its value in double quotes. Behind
the name of an end tag there may be anything that does not go on the name or end the tag. Reading a
written tag gives the tag with its names in lower case, and leaves what is behind the tag.

## Main definitions

* `Attribute.markup`, `StartTag.markup`, `EndTag.markup`: what is written.
* `IsElementName`, `Attribute.WellFormed`, `StartTag.WellFormed`, `EndTag.WellFormed`: what can be
  written.
* `Attribute.lowered`, `StartTag.lowered`: what is read.

## Main results

* `readAttributes_markup`, `readStartTag_markup`, `readEndTag_markup`: what is read is what has been
  written.
-/

namespace ApiReference.Markup

open Text

/-! ### Names -/

/-- The name of an element: an ASCII letter with ASCII letters and digits, hyphens, colons and
underscores behind it. -/
def IsElementName (name : Text) : Prop := startsName name ∧ ∀ c ∈ name, isNameChar c

-- The characters are tested one by one: there are too many to go through them all.
instance (name : Text) : Decidable (IsElementName name) :=
  decidable_of_iff (startsName name ∧ name.all isNameChar) (by rw [IsElementName, List.all_eq_true])

/-! ### Attributes -/

namespace Attribute

/-- An attribute as it is written, with a space in front. -/
def markup (a : Attribute) : Text :=
  ' ' :: a.name ++ '=' :: '"' :: escape '"' a.value ++ ['"']

/-- An attribute that can be written: it has a name, and the name holds no white space and none of
the characters that end it. -/
def WellFormed (a : Attribute) : Prop :=
  a.name ≠ [] ∧ ∀ c ∈ a.name, isAttributeNameChar c

instance (a : Attribute) : Decidable a.WellFormed :=
  decidable_of_iff (a.name ≠ [] ∧ a.name.all isAttributeNameChar)
    (by rw [WellFormed, List.all_eq_true])

/-- An attribute with its name in lower case. -/
def lowered (a : Attribute) : Attribute := ⟨asciiLower a.name, a.value⟩

end Attribute

theorem readAssignment_markup (value rest : Text) :
    readAssignment ('=' :: '"' :: (escape '"' value ++ '"' :: rest)) = (value, rest) := by
  have hquote := notMem_escape (.inr rfl) value
  change readQuotedValue '"' (escape '"' value ++ '"' :: rest) = _
  rw [readQuotedValue, takeWhile_ne_append hquote, dropWhile_ne_append hquote,
    decodeReferences_escape]
  rfl

/-- A written attribute is read without what is behind it. -/
theorem readAttribute_markup {c : Char} {more value : Text}
    (h : Attribute.WellFormed ⟨c :: more, value⟩) (rest : Text) :
    readAttribute c (more ++ '=' :: '"' :: (escape '"' value ++ '"' :: rest)) =
      (⟨asciiLower (c :: more), value⟩, rest) := by
  obtain ⟨hc, hmore⟩ := List.forall_mem_cons.1 h.2
  have hne : c ≠ '=' := by
    rintro rfl
    simp [isAttributeNameChar] at hc
  have hstop : isAttributeNameChar '=' = false := rfl
  rw [readAttribute, if_neg hne, takeWhile_append_stop hmore (by simpa using hstop),
    List.drop_left, readAssignment_markup]

/-- The end of a start tag as it is written. -/
def tagEnd (selfClosing : Bool) : Text := if selfClosing then ['/', '>'] else ['>']

theorem readAttributes_tagEnd (selfClosing : Bool) (rest : Text) :
    readAttributes (tagEnd selfClosing ++ rest) = ([], selfClosing, rest) := by
  have hdrop : (tagEnd selfClosing ++ rest).dropWhile Unicode.isBlank =
      tagEnd selfClosing ++ rest := by
    cases selfClosing <;> rfl
  rw [readAttributes]
  cases selfClosing <;> split <;> grind [tagEnd]

theorem readAttributes_of_dropWhile_eq {s rest : Text} {c : Char}
    (h : s.dropWhile Unicode.isBlank = c :: rest) (hc : isAttributeNameChar c) :
    readAttributes s =
      ((readAttribute c rest).1 :: (readAttributes (readAttribute c rest).2).1,
        (readAttributes (readAttribute c rest).2).2) := by
  rw [readAttributes]
  split <;> grind [isAttributeNameChar]

/-- Written attributes are read up to the end of the tag. -/
theorem readAttributes_markup {attributes : List Attribute} (h : ∀ a ∈ attributes, a.WellFormed)
    (selfClosing : Bool) (rest : Text) :
    readAttributes (attributes.flatMap Attribute.markup ++ (tagEnd selfClosing ++ rest)) =
      (attributes.map Attribute.lowered, selfClosing, rest) := by
  induction attributes with
  | nil => exact readAttributes_tagEnd selfClosing rest
  | cons a attributes ih =>
    obtain ⟨ha, hattributes⟩ := List.forall_mem_cons.1 h
    obtain ⟨_ | ⟨c, more⟩, value⟩ := a
    · exact absurd rfl ha.1
    have hc : isAttributeNameChar c := ha.2 c List.mem_cons_self
    have hdrop : ((Attribute.mk (c :: more) value :: attributes).flatMap Attribute.markup ++
        (tagEnd selfClosing ++ rest)).dropWhile Unicode.isBlank =
        c :: (more ++ '=' :: '"' :: (escape '"' value ++ '"' ::
          (attributes.flatMap Attribute.markup ++ (tagEnd selfClosing ++ rest)))) := by
      have hblank : Unicode.isBlank c = false := by
        simp_all [isAttributeNameChar]
      have hspace : Unicode.isBlank ' ' = true := rfl
      simp [Attribute.markup, hspace, hblank]
    rw [readAttributes_of_dropWhile_eq hdrop hc, readAttribute_markup ha, ih hattributes]
    rfl

/-! ### Start tags -/

namespace StartTag

/-- A start tag as it is written. -/
def markup (tag : StartTag) : Text :=
  '<' :: tag.name ++ (tag.attributes.flatMap Attribute.markup ++ tagEnd tag.selfClosing)

/-- A start tag that can be written. -/
structure WellFormed (tag : StartTag) : Prop where
  name : IsElementName tag.name
  attributes : ∀ a ∈ tag.attributes, a.WellFormed

instance (tag : StartTag) : Decidable tag.WellFormed :=
  decidable_of_iff (IsElementName tag.name ∧ ∀ a ∈ tag.attributes, a.WellFormed)
    ⟨fun h ↦ ⟨h.1, h.2⟩, fun h ↦ ⟨h.name, h.attributes⟩⟩

/-- A start tag with its names in lower case. -/
def lowered (tag : StartTag) : StartTag :=
  ⟨asciiLower tag.name, tag.attributes.map Attribute.lowered, tag.selfClosing⟩

end StartTag

theorem readStartTag_markup {tag : StartTag} (h : tag.WellFormed) (rest : Text) :
    readStartTag (tag.name ++ (tag.attributes.flatMap Attribute.markup ++
      (tagEnd tag.selfClosing ++ rest))) = (tag.lowered, rest) := by
  -- The name ends at the space of an attribute or at the end of the tag.
  have hstop : ∀ c ∈ (tag.attributes.flatMap Attribute.markup ++
      (tagEnd tag.selfClosing ++ rest)).head?, isNameChar c = false := by
    cases tag.attributes with
    | nil => cases tag.selfClosing <;> simp [tagEnd, isNameChar]
    | cons a attributes => simp [Attribute.markup, isNameChar]
  rw [readStartTag, takeWhile_append_stop h.name.2 hstop, dropWhile_append_stop h.name.2 hstop,
    readAttributes_markup h.attributes]
  rfl

/-! ### End tags -/

/-- An end tag as it is written: the name, and what stands between the name and the `>`. -/
structure EndTag where
  name : Text
  trailing : Text := []
deriving DecidableEq, Repr

namespace EndTag

/-- An end tag as it is written. -/
def markup (tag : EndTag) : Text := '<' :: '/' :: tag.name ++ (tag.trailing ++ ['>'])

/-- An end tag that can be written: what stands behind the name neither goes on with the name nor
ends the tag. -/
structure WellFormed (tag : EndTag) : Prop where
  name : IsElementName tag.name
  stops : ∀ c ∈ tag.trailing.head?, isNameChar c = false
  notMem_trailing : '>' ∉ tag.trailing

instance (tag : EndTag) : Decidable tag.WellFormed :=
  decidable_of_iff (IsElementName tag.name ∧ tag.trailing.head?.all (!isNameChar ·) ∧
      '>' ∉ tag.trailing)
    ⟨fun h ↦ ⟨h.1, all_not_iff.1 h.2.1, h.2.2⟩,
      fun h ↦ ⟨h.name, all_not_iff.2 h.stops, h.notMem_trailing⟩⟩

end EndTag

theorem readEndTag_markup {tag : EndTag} (h : tag.WellFormed) (rest : Text) :
    readEndTag (tag.name ++ (tag.trailing ++ '>' :: rest)) = (asciiLower tag.name, rest) := by
  have hstop : ∀ c ∈ (tag.trailing ++ '>' :: rest).head?, isNameChar c = false := by
    have hstops := h.stops
    cases htrailing : tag.trailing with
    | nil => simp [isNameChar]
    | cons c trailing => simpa [htrailing] using hstops
  rw [readEndTag, takeWhile_append_stop h.name.2 hstop, dropWhile_append_stop h.name.2 hstop,
    dropWhile_ne_append h.notMem_trailing]
  rfl

end ApiReference.Markup
