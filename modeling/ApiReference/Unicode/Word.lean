import ApiReference.Unicode.Alphabetic
import ApiReference.Unicode.Mark
import ApiReference.Unicode.Numeric

/-!
# Characters of words and of names

Two classes built from the properties of the Unicode character database. The *alphanumeric*
characters are the letters and the numbers. The *word characters*, whose edges are the word
boundaries of a text, are the letters, the combining marks, the decimal digits, the connector
punctuation such as the underscore, and the two join controls; a fraction or a superscript is
alphanumeric and no word character.

The word characters are those of version 16.0 of the database. The other tables of this folder are
those of version 17.0, so the letters, marks and digits that are new in it are taken out here.
-/

namespace ApiReference.Unicode

/-- Whether a character is a letter or a number. -/
def isAlphanumeric (c : Char) : Bool :=
  if c.toNat < 0x80 then c.isAlphanum else isAlphabetic c || isNumber c

/-- The punctuation that connects words, and the two controls that join letters. -/
def connectorRuns : List (Nat × Nat) := [
  (0x200C, 0x200D), (0x203F, 0x2040), (0x2054, 0x2054), (0xFE33, 0xFE34), (0xFE4D, 0xFE4F),
  (0xFF3F, 0xFF3F)]

/-- The letters, marks and digits that are new in version 17.0. -/
def newcomerRuns : List (Nat × Nat) := [
  (0x88F, 0x88F), (0xC5C, 0xC5C), (0xCDC, 0xCDC), (0x1ACF, 0x1ADD), (0x1AE0, 0x1AEB),
  (0xA7CE, 0xA7CF), (0xA7D2, 0xA7D2), (0xA7D4, 0xA7D4), (0xA7F1, 0xA7F1), (0x10940, 0x10959),
  (0x10EC5, 0x10EC7), (0x10EFA, 0x10EFB), (0x11B60, 0x11B67), (0x11DB0, 0x11DDB),
  (0x11DE0, 0x11DE9), (0x16EA0, 0x16EB8), (0x16EBB, 0x16ED3), (0x16FF2, 0x16FF6),
  (0x187F8, 0x187FF), (0x18D09, 0x18D1E), (0x18D80, 0x18DF2), (0x1E6C0, 0x1E6DE),
  (0x1E6E0, 0x1E6F5), (0x1E6FE, 0x1E6FF), (0x2B73A, 0x2B73F), (0x2CEA2, 0x2CEAD),
  (0x323B0, 0x33479)]

/-- Whether a character belongs to a word. -/
def isWordChar (c : Char) : Bool :=
  if c.toNat < 0x80 then c.isAlphanum || c == '_'
  else
    (isAlphabetic c || isMark c || isDecimalDigit c || inRuns connectorRuns c) &&
      !inRuns newcomerRuns c

end ApiReference.Unicode
