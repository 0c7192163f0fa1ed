import ApiReference.Markup.Attribute

/-!
# Tokens of markup

Markup is read one token at a time: a start tag with its attributes, an end tag, or a run of text.
Comments and declarations are no tokens and are skipped. No markup is malformed. A `<` that starts
none of these is text, and a tag or a comment that is never closed reaches to the end of the markup.

## Main definitions

* `Token`, `StartTag`: what the markup consists of.
* `readStartTag`, `readEndTag`, `readText`: the tokens one by one.
* `dropIgnored`: the markup behind comments and declarations.
* `Token.read?`: the first token of some markup, and the markup behind it.

## Main results

* `Token.length_lt_of_read?`: a token takes up some of the markup.
-/

namespace ApiReference.Markup

open Text

/-- A start tag: the name of its element in lower case, its attributes in order, and whether it ends
with a slash. -/
structure StartTag where
  name : Text
  attributes : List Attribute
  selfClosing : Bool
deriving DecidableEq, Repr

/-- A token of markup. -/
inductive Token where
  /-- A start tag, such as `<td class="x">`. -/
  | startTag (tag : StartTag)
  /-- An end tag, such as `</td>`, given by its name in lower case. -/
  | endTag (name : Text)
  /-- A run of text with its character references decoded. -/
  | text (characters : Text)
deriving DecidableEq, Repr

/-! ### Tags -/

/-- Whether a character may stand in the name of an element. -/
def isNameChar (c : Char) : Bool := c.isAlphanum || c == '-' || c == ':' || c == '_'

/-- Whether a text starts like the name of an element: with an ASCII letter. -/
def startsName : Text → Bool
  | [] => false
  | c :: _ => c.isAlpha

/-- The start tag whose `<` has been read, and the markup behind it. -/
def readStartTag (s : Text) : StartTag × Text :=
  let (attributes, selfClosing, rest) := readAttributes (s.dropWhile isNameChar)
  (⟨asciiLower (s.takeWhile isNameChar), attributes, selfClosing⟩, rest)

/-- The name in the end tag whose `</` has been read, and the markup behind the tag. What stands
between the name and the `>` is passed over. -/
def readEndTag (s : Text) : Text × Text :=
  (asciiLower (s.takeWhile isNameChar), ((s.dropWhile isNameChar).dropWhile (· != '>')).tail)

theorem readStartTag_suffix (s : Text) : (readStartTag s).2 <:+ s :=
  (readAttributes_suffix _).trans (List.dropWhile_suffix _)

theorem readEndTag_suffix (s : Text) : (readEndTag s).2 <:+ s :=
  (tail_dropWhile_suffix _ _).trans (List.dropWhile_suffix _)

/-- What starts with a name is longer than what lies behind the name. -/
theorem length_dropWhile_isNameChar_lt {s : Text} (h : startsName s) :
    (s.dropWhile isNameChar).length < s.length := by
  cases s with
  | nil => simp [startsName] at h
  | cons c rest =>
    have hc : isNameChar c = true := by
      simp_all [startsName, isNameChar, Char.isAlphanum]
    rw [List.dropWhile_cons_of_pos hc]
    exact Nat.lt_succ_of_le (List.dropWhile_suffix _).length_le

/-- A start tag takes up its name, so what lies behind it is shorter. -/
theorem length_lt_of_readStartTag {s : Text} (h : startsName s) :
    (readStartTag s).2.length < s.length :=
  Nat.lt_of_le_of_lt (readAttributes_suffix _).length_le (length_dropWhile_isNameChar_lt h)

/-! ### Comments and declarations -/

/-- The markup behind the comment or declaration that the markup starts with, if it starts with one.
A comment ends with the first `-->`, whose dashes may be those that opened it; any other `<!` and a
`<?` end with the next `>`. -/
def behindIgnored? : Text → Option Text
  | '<' :: '!' :: '-' :: '-' :: s => some (afterFirst ['-', '-', '>'] ('-' :: '-' :: s))
  | '<' :: '!' :: s => some (s.dropWhile (· != '>')).tail
  | '<' :: '?' :: s => some (s.dropWhile (· != '>')).tail
  | _ => none

theorem length_lt_of_behindIgnored? {s rest : Text} (h : behindIgnored? s = some rest) :
    rest.length < s.length := by
  unfold behindIgnored? at h
  split at h
  · cases h
    exact Nat.lt_succ_of_lt (Nat.lt_succ_of_le (afterFirst_suffix _ _).length_le)
  · cases h
    exact Nat.lt_succ_of_lt (Nat.lt_succ_of_le (tail_dropWhile_suffix _ _).length_le)
  · cases h
    exact Nat.lt_succ_of_lt (Nat.lt_succ_of_le (tail_dropWhile_suffix _ _).length_le)
  · simp at h

theorem behindIgnored?_suffix {s rest : Text} (h : behindIgnored? s = some rest) : rest <:+ s := by
  unfold behindIgnored? at h
  split at h
  · cases h
    exact ((afterFirst_suffix _ _).trans (List.suffix_cons _ _)).trans (List.suffix_cons _ _)
  · cases h
    exact ((tail_dropWhile_suffix _ _).trans (List.suffix_cons _ _)).trans (List.suffix_cons _ _)
  · cases h
    exact ((tail_dropWhile_suffix _ _).trans (List.suffix_cons _ _)).trans (List.suffix_cons _ _)
  · simp at h

/-- The markup behind all the comments and declarations that it starts with. -/
def dropIgnored (s : Text) : Text :=
  match _h : behindIgnored? s with
  | some rest => dropIgnored rest
  | none => s
termination_by s.length
decreasing_by exact length_lt_of_behindIgnored? _h

theorem dropIgnored_suffix (s : Text) : dropIgnored s <:+ s := by
  fun_induction dropIgnored s with
  | case1 s rest h ih => exact ih.trans (behindIgnored?_suffix h)
  | case2 s _ => exact List.suffix_rfl

/-! ### Tokens -/

/-- The run of text that starts with the character `c` and goes on in `s` up to the next `<`, and
the markup behind it. The first character may itself be a `<`. -/
def readText (c : Char) (s : Text) : Text × Text :=
  (decodeReferences (c :: s.takeWhile (· != '<')), s.dropWhile (· != '<'))

/-- The first token of some markup and the markup behind it, or nothing when only comments and
declarations are left. -/
def Token.read? (s : Text) : Option (Token × Text) :=
  match dropIgnored s with
  | [] => none
  | c :: rest =>
    if c = '<' ∧ startsName rest then
      let (tag, behind) := readStartTag rest
      some (.startTag tag, behind)
    else if c = '<' ∧ rest.head? = some '/' ∧ startsName rest.tail then
      let (name, behind) := readEndTag rest.tail
      some (.endTag name, behind)
    else
      let (characters, behind) := readText c rest
      some (.text characters, behind)

/-- What lies behind a token lies behind a first character of the markup too. -/
theorem Token.exists_cons_of_read? {s behind : Text} {token : Token}
    (h : Token.read? s = some (token, behind)) :
    ∃ c rest, dropIgnored s = c :: rest ∧ behind <:+ rest := by
  unfold Token.read? at h
  split at h
  · simp at h
  · rename_i c rest hs
    refine ⟨c, rest, hs, ?_⟩
    split at h
    · obtain ⟨-, rfl⟩ := Prod.mk.inj (Option.some.inj h)
      exact readStartTag_suffix rest
    · split at h
      · obtain ⟨-, rfl⟩ := Prod.mk.inj (Option.some.inj h)
        exact (readEndTag_suffix _).trans (List.tail_suffix _)
      · obtain ⟨-, rfl⟩ := Prod.mk.inj (Option.some.inj h)
        exact List.dropWhile_suffix _

/-- A token takes up some of the markup. -/
theorem Token.length_lt_of_read? {s behind : Text} {token : Token}
    (h : Token.read? s = some (token, behind)) : behind.length < s.length := by
  obtain ⟨c, rest, hs, hbehind⟩ := Token.exists_cons_of_read? h
  have hle := (dropIgnored_suffix s).length_le
  rw [hs, List.length_cons] at hle
  exact Nat.lt_of_le_of_lt hbehind.length_le hle

/-- A start tag takes up its `<` and some more of the markup. -/
theorem Token.length_add_one_lt_of_read? {s behind : Text} {tag : StartTag}
    (h : Token.read? s = some (.startTag tag, behind)) : behind.length + 1 < s.length := by
  unfold Token.read? at h
  split at h
  · simp at h
  · rename_i c rest hs
    have hle := (dropIgnored_suffix s).length_le
    rw [hs, List.length_cons] at hle
    split at h
    · rename_i hname
      obtain ⟨-, rfl⟩ := Prod.mk.inj (Option.some.inj h)
      exact Nat.lt_of_lt_of_le (Nat.succ_lt_succ (length_lt_of_readStartTag hname.2)) hle
    · split at h <;> simp at h

end ApiReference.Markup
