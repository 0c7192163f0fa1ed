import ApiReference.Markup.CharacterReference
import ApiReference.Text.Search

/-!
# Attributes of start tags

Behind the name of a start tag stand attributes, up to the `>` of the tag. An attribute is a name
with a value, which may be missing. Values stand in quotes of either kind or bare, and their
character references are decoded. Nothing in a tag is malformed: odd characters become attributes, a
slash that does not end the tag is passed over, and a tag or a quoted value that is never closed
reaches to the end of the markup.

## Main definitions

* `Attribute`: a named value.
* `readAttribute`: one attribute, and the text behind it.
* `readAttributes`: the rest of a start tag, and the markup behind it.

## Main results

* `readAttribute_suffix`, `readAttributes_suffix`: what lies behind is an end of the text.
-/

namespace ApiReference.Markup

open Text

/-- A named value in a start tag. The name is in lower case, the value has its character references
decoded and is empty when none is given. -/
structure Attribute where
  name : Text
  value : Text
deriving DecidableEq, Repr

/-! ### Values -/

/-- Whether a character may stand in the name of an attribute, behind its first character. -/
def isAttributeNameChar (c : Char) : Bool :=
  !Unicode.isBlank c && c != '=' && c != '>' && c != '/'

/-- Whether a character may stand in an attribute's value that has no quotes. -/
def isBareValueChar (c : Char) : Bool := !Unicode.isBlank c && c != '>'

/-- A value between quotes, whose opening quote has been read, and the text behind the closing
quote. -/
def readQuotedValue (quote : Char) (s : Text) : Text × Text :=
  (decodeReferences (s.takeWhile (· != quote)), (s.dropWhile (· != quote)).tail)

/-- An attribute's value, in quotes of either kind or bare, and the text behind it. -/
def readValue : Text → Text × Text
  | '"' :: s => readQuotedValue '"' s
  | '\'' :: s => readQuotedValue '\'' s
  | s => (decodeReferences (s.takeWhile isBareValueChar), s.dropWhile isBareValueChar)

/-- The value that may follow the name of an attribute, and the text behind it. -/
def readAssignment (s : Text) : Text × Text :=
  match s.dropWhile Unicode.isBlank with
  | '=' :: rest => readValue (rest.dropWhile Unicode.isBlank)
  | rest => ([], rest)

theorem tail_dropWhile_suffix (p : Char → Bool) (s : Text) : (s.dropWhile p).tail <:+ s :=
  (List.tail_suffix _).trans (List.dropWhile_suffix p)

theorem readQuotedValue_suffix (quote : Char) (s : Text) : (readQuotedValue quote s).2 <:+ s :=
  tail_dropWhile_suffix _ s

theorem readValue_suffix (s : Text) : (readValue s).2 <:+ s := by
  unfold readValue
  split
  · exact (readQuotedValue_suffix _ _).trans (List.suffix_cons _ _)
  · exact (readQuotedValue_suffix _ _).trans (List.suffix_cons _ _)
  · exact List.dropWhile_suffix _

theorem readAssignment_suffix (s : Text) : (readAssignment s).2 <:+ s := by
  unfold readAssignment
  split
  · rename_i rest h
    refine (readValue_suffix _).trans ((List.dropWhile_suffix _).trans ?_)
    exact (List.suffix_cons '=' rest).trans (h ▸ List.dropWhile_suffix _)
  · exact List.dropWhile_suffix _

/-! ### Attributes -/

/-- The attribute that starts with the character `c` and goes on in `s`, and the text behind it. An
equals sign in the place of a name is the whole name. -/
def readAttribute (c : Char) (s : Text) : Attribute × Text :=
  let more := if c = '=' then [] else s.takeWhile isAttributeNameChar
  let (value, rest) := readAssignment (s.drop more.length)
  (⟨asciiLower (c :: more), value⟩, rest)

theorem readAttribute_suffix (c : Char) (s : Text) : (readAttribute c s).2 <:+ s :=
  (readAssignment_suffix _).trans (List.drop_suffix _ _)

/-- The attributes of a start tag whose name has been read, whether the tag ends with a slash, and
the markup behind the tag. -/
def readAttributes (s : Text) : List Attribute × Bool × Text :=
  match _h : s.dropWhile Unicode.isBlank with
  | [] => ([], false, [])
  | '>' :: rest => ([], false, rest)
  | '/' :: '>' :: rest => ([], true, rest)
  | '/' :: rest => readAttributes rest
  | c :: rest =>
    let first := readAttribute c rest
    let others := readAttributes first.2
    (first.1 :: others.1, others.2)
termination_by s.length
decreasing_by
  all_goals
    have hle := (List.dropWhile_suffix (l := s) Unicode.isBlank).length_le
    rw [_h, List.length_cons] at hle
  · exact hle
  · exact Nat.lt_of_le_of_lt (readAttribute_suffix c rest).length_le hle

/-- What is read of the attributes, by the first character that is no white space. -/
theorem readAttributes_eq (s : Text) : readAttributes s =
    match s.dropWhile Unicode.isBlank with
    | [] => ([], false, [])
    | '>' :: rest => ([], false, rest)
    | '/' :: '>' :: rest => ([], true, rest)
    | '/' :: rest => readAttributes rest
    | c :: rest =>
      ((readAttribute c rest).1 :: (readAttributes (readAttribute c rest).2).1,
        (readAttributes (readAttribute c rest).2).2) := by
  rw [readAttributes]
  split <;> grind

/-- What lies behind the attributes is an end of the text. -/
theorem readAttributes_suffix (s : Text) : (readAttributes s).2.2 <:+ s := by
  fun_induction readAttributes s with
  | case1 s => exact List.nil_suffix
  | case2 s rest h => exact (List.suffix_cons _ _).trans (h ▸ List.dropWhile_suffix _)
  | case3 s rest h =>
    exact ((List.suffix_cons _ _).trans (List.suffix_cons _ _)).trans
      (h ▸ List.dropWhile_suffix _)
  | case4 s rest _ h ih =>
    exact ih.trans ((List.suffix_cons _ _).trans (h ▸ List.dropWhile_suffix _))
  | case5 s c rest _ _ _ h _ _ ih =>
    exact ih.trans ((readAttribute_suffix c rest).trans
      ((List.suffix_cons _ _).trans (h ▸ List.dropWhile_suffix _)))

end ApiReference.Markup
