import ApiReference.Text.Basic

/-!
# Comments

A description is written as line comments. Its lines are wrapped to a width that counts the
characters behind the comment mark: a line that is too long is broken at the last white space at or
before the width, and both parts lose the white space around them. A line with no such white space
is left as it is, so that no word is ever split.

## Main definitions

* `breakPosition?`: the place where a line is to be broken.
* `wrapLine`, `wrap`: the lines into which a line or a text is broken.
* `comment`: a text as line comments.
-/

namespace ApiReference.Output

open Text

/-- The last position from 1 to the width at which a line has white space. -/
def breakPosition? : Nat → Text → Option Nat
  | width + 1, _ :: c :: s =>
    match breakPosition? width (c :: s) with
    | some i => some (i + 1)
    | none => if Unicode.isBlank c then some 1 else none
  | _, _ => none

/-- The position is at least 1, at most the width, and inside the line. -/
theorem bounds_of_breakPosition? {width i : Nat} {line : Text}
    (h : breakPosition? width line = some i) : 1 ≤ i ∧ i ≤ width ∧ i < line.length := by
  fun_induction breakPosition? width line generalizing i with
  | case1 width _ c s j hj ih =>
    obtain ⟨h₁, h₂, h₃⟩ := ih hj
    obtain rfl := Option.some.inj h
    simp only [List.length_cons] at h₃ ⊢
    omega
  | case2 width _ c s _ _ _ =>
    obtain rfl := Option.some.inj h
    simp
  | case3 => simp at h
  | case4 => simp at h

/-- The lines into which a line is broken. -/
def wrapLine (width : Nat) (line : Text) : List Text :=
  if line.length ≤ width then [line]
  else
    match _h : breakPosition? width line with
    | none => [line]
    | some i =>
      let rest := trim (line.drop i)
      trim (line.take i) :: if rest.isEmpty then [] else wrapLine width rest
termination_by line.length
decreasing_by
  have hbounds := bounds_of_breakPosition? _h
  refine Nat.lt_of_le_of_lt (length_trim_le _) ?_
  rw [List.length_drop]
  omega

/-- The lines of a text, wrapped. -/
def wrap (width : Nat) (text : Text) : List Text := (lines text).flatMap (wrapLine width)

/-- A line as a comment behind some spaces. -/
def commentLine (indent : Nat) (line : Text) : Text :=
  List.replicate indent ' ' ++ '/' :: '/' :: if line.isEmpty then [] else ' ' :: line

/-- A text as line comments behind some spaces. White space alone is worth no comment. -/
def comment (indent width : Nat) (text : Text) : List Text :=
  if isBlank text then [] else (wrap width text).map (commentLine indent)

end ApiReference.Output
