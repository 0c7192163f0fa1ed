import ApiReference.Unicode.Blank
import ApiReference.Unicode.CaseMapping
import ApiReference.Unicode.LetterCase
import ApiReference.Unicode.Word

/-!
# Characters by their code points

A property of the characters up to some code point can be checked one code point after the other.
The letters and digits of ASCII are known by their code points, and they have the properties of
letters and numbers in general.

## Main results

* `forall_of_forall_code`: a property that the characters of all code points below a bound have.
* `bounds_of_isLower`, `bounds_of_isUpper`, `toNat_lt_of_isAlphanum`: the code points of letters and
  digits, which `isAlphanum_iff` takes together.
* `isAlphanumeric_of_isAlphanum`, `isUppercase_of_isUpper`, `isBlank_eq_false_of_isAlphanum`: their
  properties.
* `upper_eq`, `lower_eq`: their case mappings, which `toLower_toUpper` and `toUpper_toLower` invert.
* `toUpper_eq_self_iff`: the characters that are their own capitals.
* `eq_of_toLower_eq`: no other characters come from letters in lower case.
-/

namespace ApiReference.Unicode

variable {c d : Char}

/-- What holds of every code point below a bound holds of the characters below it. -/
theorem forall_of_forall_code {p : Char → Prop} (bound : Nat)
    (h : ∀ code < bound, p (Char.ofNat code)) (c : Char) (hc : c.toNat < bound) : p c := by
  have hp := h c.toNat hc
  rwa [Char.ofNat_toNat] at hp

/-! ### Letters and digits of ASCII -/

theorem bounds_of_isLower (h : c.isLower) : 0x61 ≤ c.toNat ∧ c.toNat ≤ 0x7A :=
  (Bool.and_eq_true_iff.1 h).imp of_decide_eq_true of_decide_eq_true

theorem bounds_of_isUpper (h : c.isUpper) : 0x41 ≤ c.toNat ∧ c.toNat ≤ 0x5A :=
  of_decide_eq_true h

theorem bounds_of_isDigit (h : c.isDigit) : 0x30 ≤ c.toNat ∧ c.toNat ≤ 0x39 :=
  (Bool.and_eq_true_iff.1 h).imp of_decide_eq_true of_decide_eq_true

theorem isAlphanum_iff : c.isAlphanum ↔ c.isUpper ∨ c.isLower ∨ c.isDigit := by
  have halphanum : c.isAlphanum = (c.isUpper || c.isLower || c.isDigit) := rfl
  rw [halphanum, Bool.or_eq_true, Bool.or_eq_true, or_assoc]

theorem isLower_eq_false_of_isUpper (h : c.isUpper) : c.isLower = false := by
  refine Bool.eq_false_iff.2 fun hlower ↦ ?_
  have hle := (bounds_of_isUpper h).2
  have hge := (bounds_of_isLower hlower).1
  omega

theorem toNat_lt_of_isAlphanum (h : c.isAlphanum) : c.toNat < 0x80 := by
  rcases isAlphanum_iff.1 h with hupper | hlower | hdigit
  · exact Nat.lt_of_le_of_lt (bounds_of_isUpper hupper).2 (by decide)
  · exact Nat.lt_of_le_of_lt (bounds_of_isLower hlower).2 (by decide)
  · exact Nat.lt_of_le_of_lt (bounds_of_isDigit hdigit).2 (by decide)

theorem isAlphanumeric_of_isAlphanum (h : c.isAlphanum) : isAlphanumeric c := by
  rwa [isAlphanumeric, if_pos (toNat_lt_of_isAlphanum h)]

theorem isUppercase_of_isUpper (h : c.isUpper) : isUppercase c := by
  rwa [isUppercase, if_pos (Nat.lt_of_le_of_lt (bounds_of_isUpper h).2 (by decide))]

theorem isBlank_eq_false_of_isAlphanum (h : c.isAlphanum) : isBlank c = false :=
  forall_of_forall_code (p := fun c ↦ c.isAlphanum → isBlank c = false) 0x80 (by decide +kernel) c
    (toNat_lt_of_isAlphanum h) h

/-! ### Case -/

theorem toLower_eq_self (h : c.isUpper = false) : c.toLower = c :=
  dif_neg fun hupper ↦ Bool.eq_false_iff.1 h (decide_eq_true hupper)

theorem isLower_toLower (h : c.isUpper) : c.toLower.isLower :=
  forall_of_forall_code (p := fun c ↦ c.isUpper → c.toLower.isLower) 0x80 (by decide) c
    (Nat.lt_of_le_of_lt (bounds_of_isUpper h).2 (by decide)) h

theorem isUpper_toUpper (h : c.isLower) : c.toUpper.isUpper :=
  forall_of_forall_code (p := fun c ↦ c.isLower → c.toUpper.isUpper) 0x80 (by decide) c
    (Nat.lt_of_le_of_lt (bounds_of_isLower h).2 (by decide)) h

theorem toLower_toUpper (h : c.isLower) : c.toUpper.toLower = c :=
  forall_of_forall_code (p := fun c ↦ c.isLower → c.toUpper.toLower = c) 0x80 (by decide) c
    (Nat.lt_of_le_of_lt (bounds_of_isLower h).2 (by decide)) h

theorem toUpper_toLower (h : c.isUpper) : c.toLower.toUpper = c :=
  forall_of_forall_code (p := fun c ↦ c.isUpper → c.toLower.toUpper = c) 0x80 (by decide) c
    (Nat.lt_of_le_of_lt (bounds_of_isUpper h).2 (by decide)) h

/-- Only the letters in lower case have another form in upper case. -/
theorem toUpper_eq_self_iff : c.toUpper = c ↔ c.isLower = false := by
  constructor
  · intro h
    refine Bool.eq_false_iff.2 fun hlower ↦ ?_
    have hcapital := isLower_eq_false_of_isUpper (isUpper_toUpper hlower)
    rw [h, hlower] at hcapital
    cases hcapital
  · intro h
    exact dif_neg fun hlower ↦
      Bool.eq_false_iff.1 h (Bool.and_eq_true_iff.2 (hlower.imp decide_eq_true decide_eq_true))

theorem upper_eq (h : c.isAlphanum) : upper c = [c.toUpper] := by
  rw [upper, if_pos (toNat_lt_of_isAlphanum h)]

theorem lower_eq (h : c.isAlphanum) : lower c = [c.toLower] := by
  rw [lower, if_pos (toNat_lt_of_isAlphanum h)]

/-- A character in lower case that is no letter was the same before. -/
theorem eq_of_toLower_eq (h : c.toLower = d) (hd : d.isLower = false) : c = d := by
  cases hc : c.isUpper with
  | true => simp [← h, isLower_toLower hc] at hd
  | false => rwa [toLower_eq_self hc] at h

end ApiReference.Unicode
