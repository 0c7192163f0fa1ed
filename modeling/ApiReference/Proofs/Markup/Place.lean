import ApiReference.Proofs.Markup.ForestReading
import ApiReference.Proofs.Markup.Replay

/-!
# Places in a forest

A place in a forest is told by the elements around it, the innermost first. The markup of the forest
is what leads to the place, what is there, and what trails behind it, in which every element around
the place has its end tag. A reader that has read what leads to the place has exactly these elements
open, whatever comes next, so that the markup can be changed from the place on.

## Main definitions

* `Enclosure`, `Place`: an element around a place, and all of them.
* `Place.fill`: the forest that has another one at a place.
* `Place.lead`, `Place.trail`: what is written before and behind a place.
* `Place.unclosed`: a forest as it is written without the end tag of one element.

## Main results

* `Place.markup_fill`: a forest as it is written around a place.
* `Reader.steps_lead_append`: the steps of a reader up to a place.
* `Reader.steps_trail`: the end of an element around a place.
-/

namespace ApiReference.Markup

open Text

variable {enclosing : List Text} {f g : Forest}

/-! ### Rows of forests -/

namespace Forest

/-- A forest and another one behind it. -/
def append : Forest → Forest → Forest
  | nil, g => g
  | leaf first rest, g => leaf first (rest.append g)
  | element tag children endTag rest, g => element tag children endTag (rest.append g)

theorem markup_append (f g : Forest) : (f.append g).markup = f.markup ++ g.markup := by
  induction f with
  | nil => rfl
  | leaf first rest ih => simp [append, markup, ih]
  | element tag children endTag rest _ ih => simp [append, markup, ih]

theorem StartsWithText.append (h : f.StartsWithText) (g : Forest) :
    (f.append g).StartsWithText := by
  cases f with
  | leaf first rest => exact h
  | nil => exact h.elim
  | element => exact h.elim

/-- What can be written behind a forest can be written alone, and so can the forest. -/
theorem wellFormed_of_append (h : (f.append g).WellFormed enclosing) :
    f.WellFormed enclosing ∧ g.WellFormed enclosing := by
  induction f with
  | nil => exact ⟨trivial, h⟩
  | leaf first rest ih =>
    obtain ⟨hfirst, htexts, hrest⟩ := h
    obtain ⟨hrest, hg⟩ := ih hrest
    exact ⟨⟨hfirst, fun htext ↦ htexts ⟨htext.1, htext.2.append g⟩, hrest⟩, hg⟩
  | element tag children endTag rest _ ih =>
    obtain ⟨hpaired, hvoid, hraw, hchildren, hrest⟩ := h
    obtain ⟨hrest, hg⟩ := ih hrest
    exact ⟨⟨hpaired, hvoid, hraw, hchildren, hrest⟩, hg⟩

end Forest

/-! ### Places -/

/-- An element around a place: its tags, and what is before and behind it in the same element. -/
structure Enclosure where
  before : Forest
  tag : StartTag
  endTag : EndTag
  behind : Forest

namespace Enclosure

/-- The name of an element in lower case. -/
def name (e : Enclosure) : Text := asciiLower e.tag.name

/-- A forest in an element, with what is before and behind the element. -/
def around (e : Enclosure) (f : Forest) : Forest :=
  e.before.append (.element e.tag f e.endTag e.behind)

end Enclosure

/-- The elements around a place, the innermost first. -/
abbrev Place : Type := List Enclosure

namespace Place

/-- The names of the elements around a place. -/
def names (place : Place) : OpenElements := place.map Enclosure.name

/-- The forest that has another one at a place. -/
def fill : Place → Forest → Forest
  | [], f => f
  | e :: outer, f => fill outer (e.around f)

/-- What is written before a place. -/
def lead : Place → Text
  | [] => []
  | e :: outer => lead outer ++ (e.before.markup ++ e.tag.markup)

/-- What is written behind a place. -/
def trail : Place → Text
  | [] => []
  | e :: outer => e.endTag.markup ++ (e.behind.markup ++ trail outer)

/-- A forest at a place as it is written when the innermost element around it has no end tag. -/
def unclosed (e : Enclosure) (outer : Place) (f : Forest) : Text :=
  lead (e :: outer) ++ (f.markup ++ (e.behind.markup ++ trail outer))

/-- The steps of a reader up to a place. -/
def leadSteps : Place → List Step
  | [] => []
  | e :: outer =>
    leadSteps outer ++ e.before.steps outer.length ++
      [⟨outer.length, e.tag.opening, outer.length + 1⟩]

/-- A place in a forest that can be written. Nothing is asked of what is behind the elements. -/
def WellFormed : Place → Prop
  | [] => True
  | e :: outer =>
    e.before.WellFormed (names outer) ∧ Paired e.tag e.endTag ∧ isVoid e.name = false ∧
      isRawText e.name = false ∧ WellFormed outer

@[simp] theorem length_names (place : Place) : place.names.length = place.length :=
  List.length_map ..

theorem markup_fill (place : Place) (f : Forest) :
    (place.fill f).markup = place.lead ++ (f.markup ++ place.trail) := by
  induction place generalizing f with
  | nil => simp [fill, lead, trail]
  | cons e outer ih =>
    simp [fill, lead, trail, ih, Enclosure.around, Forest.markup_append, Forest.markup]

/-- When a forest can be written, what is at a place can be written in the elements around it. -/
theorem wellFormed_of_fill {place : Place} (h : (place.fill f).WellFormed []) :
    place.WellFormed ∧ f.WellFormed place.names := by
  induction place generalizing f with
  | nil => exact ⟨trivial, h⟩
  | cons e outer ih =>
    obtain ⟨houter, haround⟩ := ih h
    obtain ⟨hbefore, hpaired, hvoid, hraw, hf, -⟩ := Forest.wellFormed_of_append haround
    exact ⟨⟨hbefore, hpaired, hvoid, hraw, houter⟩, hf⟩

end Place

/-! ### Reading up to a place and on -/

/-- A reader that has come to a place has the elements around it open. -/
theorem Reader.steps_lead_append {place : Place} (h : place.WellFormed) (rest : Text) :
    Reader.steps ⟨place.lead ++ rest, [], []⟩ =
      place.leadSteps ++ Reader.steps ⟨rest, place.names, []⟩ := by
  induction place generalizing rest with
  | nil => rfl
  | cons e outer ih =>
    obtain ⟨hbefore, hpaired, hvoid, hraw, houter⟩ := h
    have hstop : StopsText (e.tag.markup ++ rest) := by
      simp [StopsText, StartTag.markup]
    rw [Place.lead, List.append_assoc, List.append_assoc, ih houter,
      steps_markup_append hbefore hstop, steps_element hpaired hvoid hraw, Place.length_names]
    simp [Place.leadSteps, Place.names, Enclosure.name]

/-- The end tag of an element around a place closes everything that is open inside the element. -/
theorem Reader.steps_trail {e : Enclosure} (h : Paired e.tag e.endTag) (inner : OpenElements)
    (hinner : e.name ∉ inner) (outer : Place) :
    Reader.steps ⟨Place.trail (e :: outer), inner ++ Place.names (e :: outer), []⟩ =
      ⟨inner.length + (outer.length + 1), e.endTag.closing, outer.length⟩ ::
        Reader.steps ⟨e.behind.markup ++ outer.trail, outer.names, []⟩ := by
  have hleave : OpenElements.leave e.name (inner ++ Place.names (e :: outer)) = outer.names := by
    rw [OpenElements.leave_eq_behind]
    exact OpenElements.behind_closed_append hinner outer.names
  rw [Place.trail, steps_endTag h.wellFormed_endTag, h.name_eq, ← Enclosure.name, hleave]
  simp

end ApiReference.Markup
