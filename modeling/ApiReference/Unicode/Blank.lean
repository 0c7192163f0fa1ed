import ApiReference.Unicode.CodeRun

/-!
# White space

The characters with the property *White_Space* of the Unicode character database. There are
twenty-five: the controls from the tabulator to the carriage return, the space, the next-line
control, the no-break space, the spaces and separators of general punctuation and the ideographic
space. Neither the information separators U+001C to U+001F nor the zero-width characters are among
them.

## Main definitions

* `isBlank`: whether a character is white space.
-/

namespace ApiReference.Unicode

/-- The code points of white space. -/
def blankRuns : List (Nat × Nat) := [
  (0x9, 0xD), (0x20, 0x20), (0x85, 0x85), (0xA0, 0xA0), (0x1680, 0x1680), (0x2000, 0x200A),
  (0x2028, 0x2029), (0x202F, 0x202F), (0x205F, 0x205F), (0x3000, 0x3000)]

/-- Whether a character is white space. -/
def isBlank (c : Char) : Bool := inRuns blankRuns c

end ApiReference.Unicode
