import ApiReference.Text.Numeral
import ApiReference.Unicode.Graphic

/-!
# Quoted texts

A quoted text stands between double quotes and shows every character of the text it quotes. The
double quote, the backslash, the tabulator, the two line ends and the null character are written
with a backslash and one character; any other character that is not graphic is written by its code
point in hexadecimal, between braces; all the rest stand for themselves.

## Main definitions

* `Text.quoted`: a text between quotes.
* `Text.quotedList`: the quoted texts of a list, between brackets.
-/

namespace ApiReference.Text

/-- A character as it stands between quotes. -/
def quotedChar (c : Char) : Text :=
  match c with
  | '"' => ['\\', '"']
  | '\\' => ['\\', '\\']
  | '\t' => ['\\', 't']
  | '\n' => ['\\', 'n']
  | '\r' => ['\\', 'r']
  | '\x00' => ['\\', '0']
  | c =>
    if Unicode.isGraphic c then [c]
    else ['\\', 'u', '\x7b'] ++ hexadecimal c.toNat ++ ['\x7d']

/-- A text between double quotes. -/
def quoted (s : Text) : Text := '"' :: s.flatMap quotedChar ++ ['"']

/-- The quoted texts of a list, separated by commas and enclosed in brackets. -/
def quotedList (ss : List Text) : Text :=
  '[' :: List.intercalate [',', ' '] (ss.map quoted) ++ [']']

end ApiReference.Text
