import ApiReference.Markup.Token

/-!
# Raw text

The content of a raw-text element is text as it stands: neither tags nor character references are
looked for in it. It ends where the name of the element follows a `</`, and whatever the name is
part of there is read as the end tag.

## Main definitions

* `readRawText`: the content of a raw-text element, and the markup from its end tag on.

## Main results

* `readRawText_append`: the two are the whole markup.
-/

namespace ApiReference.Markup

open Text

/-- Whether a text starts with the end tag of an element, up to the element's name. The case of
ASCII letters does not matter, and the name may go on. -/
def startsEndTag (name s : Text) : Bool :=
  asciiLower (s.take (name.length + 2)) == '<' :: '/' :: name

/-- The content of a raw-text element, and the text from the element's end tag on. -/
def readRawText (name : Text) : Text → Text × Text
  | [] => ([], [])
  | c :: rest =>
    if startsEndTag name (c :: rest) then ([], c :: rest)
    else
      let (content, behind) := readRawText name rest
      (c :: content, behind)

/-- The content of a raw-text element and what lies behind it are the whole text. -/
theorem readRawText_append (name s : Text) : (readRawText name s).1 ++ (readRawText name s).2 = s := by
  induction s with
  | nil => rfl
  | cons c rest ih =>
    rw [readRawText]
    split
    · rfl
    · exact congrArg (c :: ·) ih

end ApiReference.Markup
