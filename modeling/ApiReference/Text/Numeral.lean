import ApiReference.Text.Basic

/-!
# Numerals

Natural numbers are written and read in positional notation: in base ten, and in base sixteen where
code points are named.

## Main definitions

* `Text.decimal`, `Text.hexadecimal`: the numeral of a number, without leading zeros.
* `Text.numeralValue`: the number that some digits denote in a base.
-/

namespace ApiReference.Text

/-- The decimal numeral of a number. -/
def decimal (n : Nat) : Text := Nat.toDigits 10 n

/-- The hexadecimal numeral of a number, with lower-case letters. -/
def hexadecimal (n : Nat) : Text := Nat.toDigits 16 n

/-- The value of a hexadecimal digit, which may be a letter of either case. -/
def digitValue (c : Char) : Nat :=
  if c.isDigit then c.toNat - '0'.toNat else c.toLower.toNat - 'a'.toNat + 10

/-- The number that digits denote in a base. Leading zeros change nothing. -/
def numeralValue (base : Nat) (digits : Text) : Nat :=
  digits.foldl (fun n c ↦ base * n + digitValue c) 0

/-- Whether a character is an ASCII digit in base sixteen, of either case. -/
def isHexDigit (c : Char) : Bool :=
  c.isDigit || ('a' ≤ c && c ≤ 'f') || ('A' ≤ c && c ≤ 'F')

end ApiReference.Text
