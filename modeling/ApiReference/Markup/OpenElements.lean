import ApiReference.Markup.Element

/-!
# The open elements

While markup is read, the elements that are open form a stack of names, the innermost first. A start
tag puts its element on the stack unless the element is void. An end tag closes the innermost
element of its name together with everything inside it, and does nothing when no such element is
open.

## Main definitions

* `OpenElements`: the names of the open elements, the innermost first.
* `OpenElements.enter`, `OpenElements.leave`: the effect of a start tag and of an end tag.
-/

namespace ApiReference.Markup

/-- The names of the open elements, the innermost first. -/
abbrev OpenElements : Type := List Text

namespace OpenElements

/-- The open elements behind the start tag of an element. -/
def enter (name : Text) (elements : OpenElements) : OpenElements :=
  if isVoid name then elements else name :: elements

/-- The open elements behind an end tag. -/
def leave (name : Text) (elements : OpenElements) : OpenElements :=
  match elements.dropWhile (· != name) with
  | [] => elements
  | _ :: outer => outer

theorem leave_suffix (name : Text) (elements : OpenElements) : leave name elements <:+ elements := by
  unfold leave
  split
  · exact List.suffix_rfl
  · rename_i inner outer h
    exact (List.suffix_cons inner outer).trans (h ▸ List.dropWhile_suffix _)

/-- Closing the innermost element leaves what is around it. -/
@[simp] theorem leave_cons_self (name : Text) (outer : OpenElements) :
    leave name (name :: outer) = outer := by
  simp [leave]

/-- The end tag of an element that is not open changes nothing. -/
theorem leave_of_not_mem {name : Text} {elements : OpenElements} (h : name ∉ elements) :
    leave name elements = elements := by
  have hdrop : elements.dropWhile (· != name) = [] := by
    induction elements with
    | nil => rfl
    | cons inner outer ih =>
      obtain ⟨hinner, houter⟩ := not_or.1 (mt List.mem_cons.2 h)
      rw [List.dropWhile_cons, if_pos (bne_iff_ne.2 (Ne.symm hinner)), ih houter]
  rw [leave, hdrop]

end OpenElements

end ApiReference.Markup
