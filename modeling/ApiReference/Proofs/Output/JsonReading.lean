import ApiReference.Text.Numeral
import ApiReference.Text.Search

/-!
# Reading JSON

A reader of JSON texts as RFC 8259 has them, so that it can be said what a text means. White space
may stand around every mark. A string may write any character by an escape, and those beyond the
basic plane by an escape for each of their two surrogates; a surrogate by itself is no character. Of
a number only the numeral is kept, and the members of an object are kept in order, with all that
have the same name.

Each reader tells what it has read and what is left of the text. What is left is shorter, so that
there is an end to reading.

## Main definitions

* `JsonValue`: the values.
* `Reading`: what has been read from a text.
* `readString?`, `readValue?`: the string behind a quote, and the value that a text starts with.
* `JsonValue.read?`: the value that a text as a whole means.
-/

namespace ApiReference.Output

open Text

/-- A JSON value. -/
inductive JsonValue where
  | null
  | bool (value : Bool)
  | number (numeral : Text)
  | string (value : Text)
  | array (elements : List JsonValue)
  | object (members : List (Text × JsonValue))
deriving Repr

/-- What has been read from a text, and what is left. -/
structure Reading (α : Type) (s : Text) where
  value : α
  rest : Text
  length_rest : rest.length < s.length

/-- What has been read from a text was read from a longer one that ends with it. -/
def Reading.behind {α β : Type} {t : Text} (f : α → β) (reading : Reading α t) (s : Text)
    (h : t.length ≤ s.length) : Reading β s :=
  ⟨f reading.value, reading.rest, Nat.lt_of_lt_of_le reading.length_rest h⟩

/-! ### Marks and words -/

/-- The white space of JSON. -/
def isJsonBlank (c : Char) : Bool := c == ' ' || c == '\t' || c == '\n' || c == '\r'

/-- The first character that is no white space. -/
def readMark? : (s : Text) → Option (Reading Char s)
  | [] => none
  | c :: s =>
    if isJsonBlank c then (readMark? s).map (·.behind id (c :: s) (Nat.le_succ _))
    else some ⟨c, s, Nat.lt_succ_self _⟩

/-- Whether a text starts with a digit and goes on with digits only. -/
def isDigits (s : Text) : Bool := !s.isEmpty && s.all Char.isDigit

/-- Whether a text is an exponent. There need not be one. -/
def isExponent : Text → Bool
  | [] => true
  | e :: '+' :: digits | e :: '-' :: digits | e :: digits =>
    (e == 'e' || e == 'E') && isDigits digits

/-- Whether a text is a fraction with an exponent. There need not be a fraction. -/
def isFraction : Text → Bool
  | '.' :: s => isDigits (s.takeWhile Char.isDigit) && isExponent (s.dropWhile Char.isDigit)
  | s => isExponent s

/-- Whether a text is a numeral. Only the zero starts with a zero. -/
def isNumeral (s : Text) : Bool :=
  let unsigned := if s.head? = some '-' then s.tail else s
  let whole := unsigned.takeWhile Char.isDigit
  isDigits whole && (whole.head? != some '0' || whole == ['0']) &&
    isFraction (unsigned.dropWhile Char.isDigit)

/-- A word or a numeral: a value that consists of letters, digits, signs and points. -/
def wordValue? (word : Text) : Option JsonValue :=
  if word = "null" then some .null
  else if word = "true" then some (.bool true)
  else if word = "false" then some (.bool false)
  else if isNumeral word then some (.number word)
  else none

/-- Whether a character may stand in a word or a numeral. -/
def isWordPart (c : Char) : Bool := c.isAlphanum || c == '+' || c == '-' || c == '.'

/-! ### Strings -/

/-- Four hexadecimal digits. -/
def readUnit? : (s : Text) → Option (Reading Nat s)
  | a :: b :: c :: d :: rest =>
    if [a, b, c, d].all isHexDigit then
      some ⟨numeralValue 16 [a, b, c, d], rest, by simp only [List.length_cons]; omega⟩
    else none
  | _ => none

/-- A character beyond the basic plane, by its two surrogates. -/
def charOfSurrogates? (high low : Nat) : Option Char :=
  if 0xD800 ≤ high ∧ high < 0xDC00 ∧ 0xDC00 ≤ low ∧ low < 0xE000 then
    some (Char.ofNat (0x10000 + (high - 0xD800) * 0x400 + (low - 0xDC00)))
  else none

/-- The character that is written by its code unit, or by two of them. -/
def readCode? (s : Text) : Option (Reading Char s) := do
  let unit ← readUnit? s
  if unit.value < 0xD800 ∨ 0xE000 ≤ unit.value then
    return ⟨Char.ofNat unit.value, unit.rest, unit.length_rest⟩
  else
    match hrest : unit.rest with
    | '\\' :: 'u' :: rest => do
      let low ← readUnit? rest
      let c ← charOfSurrogates? unit.value low.value
      return ⟨c, low.rest, by
        have hhigh := unit.length_rest
        have hlow := low.length_rest
        simp only [hrest, List.length_cons] at hhigh
        omega⟩
    | _ => none

/-- What the letters behind a backslash mean, apart from the letter of code units. -/
def escapes : List (Char × Char) := [
  ('"', '"'), ('\\', '\\'), ('/', '/'), ('b', '\x08'), ('f', '\x0c'), ('n', '\n'), ('r', '\r'),
  ('t', '\t')]

/-- The character that is written by what stands behind a backslash. -/
def readEscape? : (s : Text) → Option (Reading Char s)
  | [] => none
  | letter :: s =>
    if letter = 'u' then (readCode? s).map (·.behind id (letter :: s) (Nat.le_succ _))
    else (escapes.lookup letter).map fun c ↦ ⟨c, s, Nat.lt_succ_self _⟩

/-- The next character of a string, or none when the string is over. -/
def readCharacter? : (s : Text) → Option (Reading (Option Char) s)
  | [] => none
  | c :: s =>
    if c = '"' then some ⟨none, s, Nat.lt_succ_self _⟩
    else if c = '\\' then (readEscape? s).map (·.behind some (c :: s) (Nat.le_succ _))
    else if c.toNat < 0x20 then none
    else some ⟨some c, s, Nat.lt_succ_self _⟩

/-- The string behind a quote, up to the next quote that is not escaped. -/
def readString? (s : Text) : Option (Reading Text s) := do
  let first ← readCharacter? s
  match first.value with
  | none => return ⟨[], first.rest, first.length_rest⟩
  | some c => do
    let others ← readString? first.rest
    return others.behind (c :: ·) s (Nat.le_of_lt first.length_rest)
termination_by s.length
decreasing_by exact first.length_rest

/-! ### Arrays and objects -/

section Items

variable {α : Type} {bound : Nat}
  (readItem? : (s : Text) → s.length < bound → Option (Reading α s))

/-- Items with commas between them, and a closing mark behind the last. -/
def readItems? (close : Char) (s : Text) (hs : s.length < bound) :
    Option (Reading (List α) s) := do
  let item ← readItem? s hs
  let mark ← readMark? item.rest
  have hmark : mark.rest.length < s.length := Nat.lt_trans mark.length_rest item.length_rest
  if mark.value = close then return ⟨[item.value], mark.rest, hmark⟩
  else if mark.value = ',' then do
    let others ← readItems? close mark.rest (Nat.lt_trans hmark hs)
    return others.behind (item.value :: ·) s (Nat.le_of_lt hmark)
  else none
termination_by s.length

/-- Items, of which there may be none, and a closing mark. -/
def readList? (close : Char) (s : Text) (hs : s.length < bound) : Option (Reading (List α) s) := do
  let mark ← readMark? s
  if mark.value = close then return ⟨[], mark.rest, mark.length_rest⟩
  else readItems? readItem? close s hs

/-- A name with an item, and a colon between them. -/
def readMember? (s : Text) (hs : s.length < bound) : Option (Reading (Text × α) s) := do
  let quote ← readMark? s
  guard (quote.value = '"')
  let name ← readString? quote.rest
  let colon ← readMark? name.rest
  guard (colon.value = ':')
  have hcolon : colon.rest.length < s.length :=
    Nat.lt_trans colon.length_rest (Nat.lt_trans name.length_rest quote.length_rest)
  let item ← readItem? colon.rest (Nat.lt_trans hcolon hs)
  return item.behind (name.value, ·) s (Nat.le_of_lt hcolon)

end Items

/-! ### Values -/

/-- The value that a text starts with. -/
def readValue? (s : Text) : Option (Reading JsonValue s) := do
  let mark ← readMark? s
  if mark.value = '"' then
    let string ← readString? mark.rest
    return string.behind .string s (Nat.le_of_lt mark.length_rest)
  else if mark.value = '[' then
    let elements ← readList? (fun t _ ↦ readValue? t) ']' mark.rest mark.length_rest
    return elements.behind .array s (Nat.le_of_lt mark.length_rest)
  else if mark.value = '\x7b' then
    let members ← readList? (readMember? fun t _ ↦ readValue? t) '\x7d' mark.rest mark.length_rest
    return members.behind .object s (Nat.le_of_lt mark.length_rest)
  else
    let value ← wordValue? (mark.value :: mark.rest.takeWhile isWordPart)
    return ⟨value, mark.rest.dropWhile isWordPart,
      Nat.lt_of_le_of_lt (List.dropWhile_suffix isWordPart).length_le mark.length_rest⟩
termination_by s.length
decreasing_by all_goals assumption

/-- The value that a text means: a value with nothing behind it but white space. -/
def JsonValue.read? (s : Text) : Option JsonValue := do
  let value ← readValue? s
  guard (value.rest.all isJsonBlank)
  return value.value

end ApiReference.Output
