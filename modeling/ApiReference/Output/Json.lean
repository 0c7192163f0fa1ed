import ApiReference.Text.Basic

/-!
# JSON

The JSON values that definitions consist of, and their text. Strings escape the double quote, the
backslash and the control characters below the space, and nothing else. An array or an object that
is not empty has each of its elements on lines of their own, indented by two spaces more than
itself.

## Main definitions

* `Json`: the values.
* `Json.quote`: the text of a string.
* `Json.print`: the text of a value.
-/

namespace ApiReference.Output

/-- A JSON value. The members of an object are in order. -/
inductive Json where
  | bool (value : Bool)
  | string (value : Text)
  | array (elements : List Json)
  | object (members : List (Text × Json))
deriving Repr

namespace Json

/-- A character as it stands in a string. -/
def quoteChar (c : Char) : Text :=
  match c with
  | '"' => ['\\', '"']
  | '\\' => ['\\', '\\']
  | '\x08' => ['\\', 'b']
  | '\t' => ['\\', 't']
  | '\n' => ['\\', 'n']
  | '\x0c' => ['\\', 'f']
  | '\r' => ['\\', 'r']
  | c =>
    if c.toNat < 0x20 then
      ['\\', 'u', '0', '0', Nat.digitChar (c.toNat / 16), Nat.digitChar (c.toNat % 16)]
    else [c]

/-- The text of a string. -/
def quote (s : Text) : Text := '"' :: s.flatMap quoteChar ++ ['"']

/-- The start of a line. -/
def newline (indent : Nat) : Text := '\n' :: List.replicate indent ' '

mutual

/-- The text of a value whose lines behind the first are indented by some spaces. -/
def print (indent : Nat) : Json → Text
  | bool true => "true"
  | bool false => "false"
  | string s => quote s
  | array [] => "[]"
  | array (e :: es) =>
    '[' :: newline (indent + 2) ++ print (indent + 2) e ++ printElements (indent + 2) es ++
      newline indent ++ [']']
  | object [] => "\x7b\x7d"
  | object (m :: ms) =>
    '\x7b' :: newline (indent + 2) ++ printMember (indent + 2) m ++ printMembers (indent + 2) ms ++
      newline indent ++ ['\x7d']

/-- The text of the elements of an array behind the first. -/
def printElements (indent : Nat) : List Json → Text
  | [] => []
  | e :: es => ',' :: newline indent ++ print indent e ++ printElements indent es

/-- The text of a member of an object. -/
def printMember (indent : Nat) : Text × Json → Text
  | (name, value) => quote name ++ ':' :: ' ' :: print indent value

/-- The text of the members of an object behind the first. -/
def printMembers (indent : Nat) : List (Text × Json) → Text
  | [] => []
  | m :: ms => ',' :: newline indent ++ printMember indent m ++ printMembers indent ms

end

end Json

end ApiReference.Output
