import ApiReference.Markup.Step
import ApiReference.Proofs.Markup.WrittenTag
import Mathlib.Data.List.Infix

/-!
# Forests

Markup that is written with care is a forest: a row of leaves and elements, where an element is a
forest between a start tag and an end tag. Texts are escaped, and no text stands beside another.
Besides texts there are leaves that mean nothing, such as comments, elements that are a start tag
alone, elements whose content is raw text, and end tags that close nothing because no element of
their name is around them.

## Main definitions

* `Leaf`, `Forest`: the parts of markup.
* `Forest.markup`: a forest as it is written.
* `Forest.WellFormed`: a forest that can be written inside some elements.
* `Forest.events`, `Forest.steps`: what a reader reports about a forest.
-/

namespace ApiReference.Markup

open Text

/-! ### Leaves -/

/-- A part of markup without parts of its own. -/
inductive Leaf where
  | text (characters : Text)
  /-- A comment, such as `<!-- a -->`. -/
  | comment (content : Text)
  /-- A declaration, such as `<!DOCTYPE html>`. -/
  | declaration (content : Text)
  /-- A processing instruction, such as `<?xml version="1.0"?>`. -/
  | instruction (content : Text)
  /-- An element that is a start tag alone, such as `<br>` and `<p/>`. -/
  | lone (tag : StartTag)
  /-- An element whose content is raw text. -/
  | raw (tag : StartTag) (content : Text) (endTag : EndTag)
  /-- An end tag that closes nothing. -/
  | stray (endTag : EndTag)
deriving DecidableEq, Repr

/-- The event of the opening of an element. -/
def StartTag.opening (tag : StartTag) : Event :=
  .opened (asciiLower tag.name) (tag.attributes.map Attribute.lowered)

/-- The event of the closing of an element. -/
def EndTag.closing (tag : EndTag) : Event := .closed (asciiLower tag.name)

/-- A start tag and an end tag that can stand around the content of an element. -/
structure Paired (tag : StartTag) (endTag : EndTag) : Prop where
  wellFormed_startTag : tag.WellFormed
  not_selfClosing : tag.selfClosing = false
  wellFormed_endTag : endTag.WellFormed
  name_eq : asciiLower endTag.name = asciiLower tag.name

instance (tag : StartTag) (endTag : EndTag) : Decidable (Paired tag endTag) :=
  decidable_of_iff (tag.WellFormed ∧ tag.selfClosing = false ∧ endTag.WellFormed ∧
      asciiLower endTag.name = asciiLower tag.name)
    ⟨fun h ↦ ⟨h.1, h.2.1, h.2.2.1, h.2.2.2⟩,
      fun h ↦ ⟨h.wellFormed_startTag, h.not_selfClosing, h.wellFormed_endTag, h.name_eq⟩⟩

namespace Leaf

/-- A leaf as it is written. -/
def markup : Leaf → Text
  | text characters => escape '<' characters
  | comment content => '<' :: '!' :: '-' :: '-' :: content ++ ['-', '-', '>']
  | declaration content => '<' :: '!' :: content ++ ['>']
  | instruction content => '<' :: '?' :: content ++ ['>']
  | lone tag => tag.markup
  | raw tag content endTag => tag.markup ++ (content ++ endTag.markup)
  | stray endTag => endTag.markup

/-- A leaf that can be written inside some elements. The end of a comment may occur only at its
end, so not in what is written up to the last character. -/
def WellFormed (enclosing : List Text) : Leaf → Prop
  | text characters => characters ≠ []
  | comment content => ¬ ['-', '-', '>'] <:+: (comment content).markup.dropLast
  | declaration content => '>' ∉ content ∧ ¬ ['-', '-'] <+: content
  | instruction content => '>' ∉ content
  | lone tag => tag.WellFormed ∧ (isVoid (asciiLower tag.name) ∨ tag.selfClosing)
  | raw tag content endTag =>
    Paired tag endTag ∧ isRawText (asciiLower tag.name) ∧
      ¬ '<' :: '/' :: asciiLower tag.name <:+: asciiLower content
  | stray endTag => endTag.WellFormed ∧ asciiLower endTag.name ∉ enclosing

instance (enclosing : List Text) (leaf : Leaf) : Decidable (leaf.WellFormed enclosing) := by
  cases leaf <;> unfold WellFormed <;> infer_instance

/-- Whether a leaf is a text. -/
def IsText : Leaf → Prop
  | text _ => True
  | _ => False

instance (leaf : Leaf) : Decidable leaf.IsText := by
  cases leaf <;> unfold IsText <;> infer_instance

/-- The events of a leaf. Raw text makes an event unless it is empty, and a void element is never
closed. -/
def events : Leaf → List Event
  | text characters => [.text characters]
  | comment _ | declaration _ | instruction _ => []
  | lone tag =>
    tag.opening :: if isVoid (asciiLower tag.name) then [] else [.closed (asciiLower tag.name)]
  | raw tag content endTag =>
    tag.opening :: (if content = [] then [] else [.text content]) ++ [endTag.closing]
  | stray endTag => [endTag.closing]

end Leaf

/-! ### Forests -/

/-- A row of leaves and elements. -/
inductive Forest where
  | nil
  | leaf (first : Leaf) (rest : Forest)
  | element (tag : StartTag) (children : Forest) (endTag : EndTag) (rest : Forest)
deriving DecidableEq, Repr

namespace Forest

/-- A forest as it is written. -/
def markup : Forest → Text
  | nil => []
  | leaf first rest => first.markup ++ rest.markup
  | element tag children endTag rest =>
    tag.markup ++ (children.markup ++ (endTag.markup ++ rest.markup))

/-- Whether a forest starts with a text. -/
def StartsWithText : Forest → Prop
  | leaf first _ => first.IsText
  | _ => False

instance : (f : Forest) → Decidable f.StartsWithText
  | nil => inferInstanceAs (Decidable False)
  | leaf first _ => inferInstanceAs (Decidable first.IsText)
  | element .. => inferInstanceAs (Decidable False)

/-- A forest that can be written inside some elements. -/
def WellFormed : Forest → List Text → Prop
  | nil, _ => True
  | leaf first rest, enclosing =>
    first.WellFormed enclosing ∧ ¬ (first.IsText ∧ rest.StartsWithText) ∧ rest.WellFormed enclosing
  | element tag children endTag rest, enclosing =>
    Paired tag endTag ∧ isVoid (asciiLower tag.name) = false ∧
      isRawText (asciiLower tag.name) = false ∧
      children.WellFormed (asciiLower tag.name :: enclosing) ∧ rest.WellFormed enclosing

instance decidableWellFormed : (f : Forest) → (enclosing : List Text) →
    Decidable (f.WellFormed enclosing)
  | nil, _ => inferInstanceAs (Decidable True)
  | leaf _ rest, enclosing =>
    have := decidableWellFormed rest enclosing
    inferInstanceAs (Decidable (_ ∧ _ ∧ _))
  | element tag children _ rest, enclosing =>
    have := decidableWellFormed children (asciiLower tag.name :: enclosing)
    have := decidableWellFormed rest enclosing
    inferInstanceAs (Decidable (_ ∧ _ ∧ _ ∧ _ ∧ _))

/-- The events of a forest in the order of the markup. -/
def events : Forest → List Event
  | nil => []
  | leaf first rest => first.events ++ rest.events
  | element tag children endTag rest =>
    tag.opening :: children.events ++ endTag.closing :: rest.events

/-- The steps of a forest that is read at a depth. Only elements with an end tag of their own change
the depth. -/
def steps : Forest → Nat → List Step
  | nil, _ => []
  | leaf first rest, depth => first.events.map (⟨depth, ·, depth⟩) ++ rest.steps depth
  | element tag children endTag rest, depth =>
    ⟨depth, tag.opening, depth + 1⟩ :: children.steps (depth + 1) ++
      ⟨depth + 1, endTag.closing, depth⟩ :: rest.steps depth

theorem map_event_steps (f : Forest) (depth : Nat) : (f.steps depth).map Step.event = f.events := by
  induction f generalizing depth with
  | nil => rfl
  | leaf first rest ih => simp [steps, events, ih, Function.comp_def]
  | element tag children endTag rest ihChildren ih => simp [steps, events, ihChildren, ih]

/-- Behind a forest the reader is back at the depth before it. -/
theorem after_of_mem_getLast?_steps (f : Forest) (depth : Nat) :
    ∀ step ∈ (f.steps depth).getLast?, step.after = depth := by
  induction f with
  | nil =>
    intro step hstep
    exact absurd hstep (Option.not_mem_none step)
  | leaf first rest ih =>
    intro step hstep
    rw [steps, List.getLast?_append] at hstep
    rcases Option.or_eq_some_iff.1 hstep with hrest | ⟨-, hfirst⟩
    · exact ih step hrest
    · obtain ⟨event, -, rfl⟩ := List.mem_map.1 (List.mem_of_getLast? hfirst)
      rfl
  | element tag children endTag rest ihChildren ih =>
    intro step hstep
    rw [steps, List.getLast?_append, List.getLast?_cons] at hstep
    cases hrest : (rest.steps depth).getLast? with
    | none =>
      obtain rfl : _ = step := by simpa [hrest] using hstep
      rfl
    | some last =>
      obtain rfl : last = step := by simpa [hrest] using hstep
      exact ih last hrest

end Forest

end ApiReference.Markup
