import ApiReference.Schema.Definition
import ApiReference.Text.Search
import ApiReference.Unicode.Word

/-!
# Phrases that name the result of a function

The description of a function often tells in passing what the function returns, in one of four
phrases:

* "in form of a User object",
* "as ChatInviteLink object",
* "the sent Message is returned",
* "Returns an Array of Update objects".

The phrases are tried in this order. For each of them the description is searched from left to
right, and the type that the first match names is the result. A type is a capitalized word of ASCII
letters and digits with any number of `Array of` before it, and the longest one is taken.

## Main definitions

* `readType?`: the longest type at the start of a text.
* `Phrase`, `phrases`: a phrase that may start at some place of a text, and the four phrases.
* `resultType?`: the type that a description names as the result.
-/

namespace ApiReference.Schema

open Text

/-! ### Types and words -/

/-- The capitalized word that a text starts with, and the text behind it. -/
def readCapitalized? : Text → Option (Text × Text)
  | [] => none
  | c :: s =>
    if c.isUpper then some (c :: s.takeWhile Char.isAlphanum, s.dropWhile Char.isAlphanum) else none

/-- The words that make an array of the type behind them. -/
def arrayOf : Text := "Array of "

/-- The longest type that a text starts with, and the text behind it. Where no type follows
`Array of`, the word `Array` is a type by itself. -/
def readType? (s : Text) : Option (Text × Text) :=
  match _h : after? arrayOf s with
  | none => readCapitalized? s
  | some elements =>
    match readType? elements with
    | some (element, behind) => some (arrayOf ++ element, behind)
    | none => readCapitalized? s
termination_by s.length
decreasing_by
  rw [after?_eq_some_iff.1 _h, List.length_append]
  exact Nat.lt_add_of_pos_left (by decide)

/-- A text without the words of ASCII lower-case letters that it starts with, each of them followed
by one space. -/
def dropLowerWords (s : Text) : Text :=
  match _h : s.dropWhile Char.isLower with
  | ' ' :: rest => if (s.takeWhile Char.isLower).isEmpty then s else dropLowerWords rest
  | _ => s
termination_by s.length
decreasing_by
  have hle := (List.dropWhile_suffix (l := s) Char.isLower).length_le
  rw [_h, List.length_cons] at hle
  exact hle

/-- A character under simple case folding, as far as that gives an ASCII letter. Beside the capitals
the long s and the sign of the kelvin fold to one. -/
def foldCase (c : Char) : Char :=
  if c = '\u017F' then 's' else if c = '\u212A' then 'k' else c.toLower

/-- The text behind a lower-case word that the text starts with in any case. -/
def afterFolded? (word s : Text) : Option Text :=
  if (s.take word.length).map foldCase = word then some (s.drop word.length) else none

/-- Whether a word of the text goes on, or starts, at a place: whether the character there, if there
is one, belongs to a word. -/
def belongsToWord (c : Option Char) : Bool := c.any Unicode.isWordChar

/-! ### Phrases -/

/-- A phrase tells the type that it names when it starts at a place, which is given by the character
before it and the text behind it. -/
abbrev Phrase : Type := Option Char → Text → Option Text

/-- "in form of a T object". -/
def formPhrase : Phrase := fun _ s ↦ do
  let s ← after? "in form of " s
  let s ← afterAny? ["a ", "an "] s
  let (type, s) ← readType? s
  let _ ← after? " object" s
  return type

/-- "as T object", "as an T objects" and the like, as whole words. -/
def asPhrase : Phrase := fun previous s ↦ do
  guard !belongsToWord previous
  let s ← after? "as " s
  let (type, s) ← readType? ((afterAny? ["a ", "an "] s).getD s)
  let s ← after? " object" s
  guard !belongsToWord ((after? "s" s).getD s).head?
  return type

/-- "T is returned", "T objects are returned" and the like. -/
def passivePhrase : Phrase := fun _ s ↦ do
  let (type, s) ← readType? s
  let s := (afterAny? [" objects", " object"] s).getD s
  let _ ← afterAny? [" is returned", " are returned"] s
  return type

/-- "Returns T" in any case, with any number of lower-case words before the type. -/
def activePhrase : Phrase := fun previous s ↦ do
  guard !belongsToWord previous
  let s ← afterFolded? "returns" s
  let s ← after? " " s
  let (type, _) ← readType? (dropLowerWords s)
  return type

/-- The phrases, the most telling first. -/
def phrases : List Phrase := [formPhrase, asPhrase, passivePhrase, activePhrase]

/-- The type that a phrase names where it starts first in a text. The character before the text is
given too. -/
def Phrase.first? (phrase : Phrase) (previous : Option Char) : Text → Option Text
  | [] => none
  | c :: s =>
    match phrase previous (c :: s) with
    | some type => some type
    | none => first? phrase (some c) s

/-- The type that a description names as the result. -/
def resultType? (description : Text) : Option Text :=
  phrases.findSome? fun phrase ↦ phrase.first? none description

/-- The declared type of the result that the description of a definition names. -/
def Definition.resultType? (definition : Definition) : Option Text :=
  Schema.resultType? definition.description

end ApiReference.Schema
