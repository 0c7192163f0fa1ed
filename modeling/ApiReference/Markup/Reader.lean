import ApiReference.Markup.OpenElements
import ApiReference.Markup.RawText

/-!
# Reading markup as events

A reader goes through markup and reports events: an element is opened, an element is closed, or some
text is met. It keeps the elements that are open, and their number is its depth. Some tokens are
worth more than one event. A start tag that ends with a slash closes its element at once, and the
start tag of a raw-text element is read together with the element's content and its end tag. The
events behind the first are queued; the open elements are already those behind the last of them.

## Main definitions

* `Event`: what a reader reports.
* `Reader`, `Reader.ofMarkup`, `Reader.next?`: a reader, its start and its next event.
* `Reader.depth`: the number of open elements.

## Main results

* `Reader.weight_lt_of_next?`: every event is paid for by characters of the markup or by the queue,
  so that reading ends.
-/

namespace ApiReference.Markup

/-- What a reader of markup reports. -/
inductive Event where
  /-- An element is opened. -/
  | opened (name : Text) (attributes : List Attribute)
  /-- An end tag is met, or an element ends by itself. -/
  | closed (name : Text)
  /-- Some text is met. -/
  | text (characters : Text)
deriving DecidableEq, Repr

/-- A reader: the markup that is left, the open elements, and the events that are decided but not
yet reported. -/
structure Reader where
  rest : Text
  openElements : OpenElements
  queued : List Event
deriving DecidableEq, Repr

namespace Reader

/-- The reader at the start of some markup. -/
def ofMarkup (markup : Text) : Reader := ⟨markup, [], []⟩

/-- The number of open elements. -/
def depth (r : Reader) : Nat := r.openElements.length

/-- The reader behind the end tag whose `</` has been read, with further events queued before the
end of the element. -/
def afterEndTag (s : Text) (elements : OpenElements) (queued : List Event) : Reader :=
  let (name, rest) := readEndTag s
  ⟨rest, elements.leave name, queued ++ [.closed name]⟩

/-- The reader behind a start tag, once the opening of the element has been reported. -/
def afterStartTag (tag : StartTag) (s : Text) (elements : OpenElements) : Reader :=
  let inside := elements.enter tag.name
  if tag.selfClosing && !isVoid tag.name then
    ⟨s, inside.leave tag.name, [.closed tag.name]⟩
  else if isRawText tag.name then
    let raw := readRawText tag.name s
    let contentEvents := if raw.1.isEmpty then [] else [.text raw.1]
    if raw.2.isEmpty then ⟨[], inside, contentEvents⟩
    else afterEndTag (raw.2.drop 2) inside contentEvents
  else ⟨s, inside, []⟩

/-- The next event of a reader, and the reader behind it. -/
def next? (r : Reader) : Option (Event × Reader) :=
  match r.queued with
  | event :: queued => some (event, { r with queued })
  | [] =>
    match Token.read? r.rest with
    | none => none
    | some (.text characters, s) => some (.text characters, ⟨s, r.openElements, []⟩)
    | some (.endTag name, s) => some (.closed name, ⟨s, r.openElements.leave name, []⟩)
    | some (.startTag tag, s) =>
      some (.opened tag.name tag.attributes, afterStartTag tag s r.openElements)

/-! ### Reading ends -/

/-- A bound on the number of events that are still to come. -/
def weight (r : Reader) : Nat := r.rest.length + r.queued.length

theorem weight_afterEndTag_le (s : Text) (elements : OpenElements) (queued : List Event) :
    (afterEndTag s elements queued).weight ≤ s.length + queued.length + 1 := by
  have := (readEndTag_suffix s).length_le
  simp only [afterEndTag, weight, List.length_append, List.length_singleton]
  omega

/-- What is queued behind a start tag is paid for by the content and the end tag of the element, or
by the slash of the start tag. -/
theorem weight_afterStartTag_le (tag : StartTag) (s : Text) (elements : OpenElements) :
    (afterStartTag tag s elements).weight ≤ s.length + tag.selfClosing.toNat := by
  simp only [afterStartTag]
  split
  · rename_i hself
    simp [weight, (Bool.and_eq_true_iff.1 hself).1]
  · refine Nat.le_trans ?_ (Nat.le_add_right _ _)
    split
    · have hsplit := congrArg List.length (readRawText_append tag.name s)
      rw [List.length_append] at hsplit
      have hqueued : (if (readRawText tag.name s).1.isEmpty then [] else
          [Event.text (readRawText tag.name s).1]).length ≤ (readRawText tag.name s).1.length := by
        cases (readRawText tag.name s).1 <;> simp
      split
      · simp only [weight, List.length_nil]
        omega
      · rename_i hbehind
        have hpos := List.length_pos_iff.2 (mt List.isEmpty_iff.2 hbehind)
        refine Nat.le_trans (weight_afterEndTag_le _ _ _) ?_
        rw [List.length_drop]
        omega
    · simp [weight]

/-- Every event is paid for: by a character of the markup, or by a place in the queue. -/
theorem weight_lt_of_next? {r r' : Reader} {event : Event} (h : r.next? = some (event, r')) :
    r'.weight < r.weight := by
  unfold next? at h
  split at h
  · rename_i hqueued
    obtain ⟨-, rfl⟩ := Prod.mk.inj (Option.some.inj h)
    simp [weight, hqueued]
  · rename_i hqueued
    split at h
    · simp at h
    · rename_i hread
      obtain ⟨-, rfl⟩ := Prod.mk.inj (Option.some.inj h)
      simpa [weight, hqueued] using Token.length_lt_of_read? hread
    · rename_i hread
      obtain ⟨-, rfl⟩ := Prod.mk.inj (Option.some.inj h)
      simpa [weight, hqueued] using Token.length_lt_of_read? hread
    · rename_i hread
      obtain ⟨-, rfl⟩ := Prod.mk.inj (Option.some.inj h)
      have hstart := Token.length_add_one_lt_of_read? hread
      have hweight := weight_afterStartTag_le
      refine Nat.lt_of_le_of_lt (hweight _ _ _) ?_
      refine Nat.lt_of_le_of_lt (Nat.add_le_add_left (Bool.toNat_le _) _) ?_
      simpa [weight, hqueued] using hstart

end Reader

end ApiReference.Markup
