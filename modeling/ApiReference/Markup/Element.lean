import ApiReference.Text.Basic

/-!
# Elements with special content

Most elements hold text and other elements. A *void* element holds nothing and has no end tag, and
the content of a *raw-text* element is not markup. The names are in lower case, as the reader of
tags gives them.
-/

namespace ApiReference.Markup

/-- The names of the void elements. -/
def voidElements : List Text := [
  "area", "base", "br", "col", "embed", "hr", "img", "input", "keygen", "link", "menuitem", "meta",
  "param", "source", "track", "wbr"]

/-- The names of the elements whose content is text as it stands. -/
def rawTextElements : List Text := ["script", "style"]

/-- Whether an element has neither content nor an end tag. -/
def isVoid (name : Text) : Bool := voidElements.contains name

/-- Whether the content of an element is text as it stands. -/
def isRawText (name : Text) : Bool := rawTextElements.contains name

end ApiReference.Markup
