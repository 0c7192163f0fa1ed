import ApiReference.Proofs.Unicode.CodePoint
import ApiReference.Text.Numeral
import Mathlib.Data.List.Induction

/-!
# Numerals of a number

A number has many numerals: zeros may stand in front, and in base sixteen a letter may be in either
case. They are the texts of digits that have the number as their value.

## Main definitions

* `Text.IsNumeral`: the numerals of a number.
* `Text.IsDigitOf`: a test for the digits of a base.

## Main results

* `Text.isNumeral_iff`: the numerals of a number are the texts of digits with its value.
-/

namespace ApiReference.Text

variable {base n : Nat} {isDigit : Char → Bool} {s : Text} {c : Char}

/-- A numeral of a number: its digits in a base behind any number of zeros, with letters of either
case. -/
def IsNumeral (base n : Nat) (s : Text) : Prop :=
  ∃ zeros digits, s = List.replicate zeros '0' ++ digits ∧ asciiLower digits = Nat.toDigits base n

/-! ### Digits -/

/-- A test tells the digits of a base. A character passes when it is in lower case the digit of some
number below the base, and this number is its value. -/
structure IsDigitOf (base : Nat) (isDigit : Char → Bool) : Prop where
  one_lt : 1 < base
  value_lt : ∀ c, isDigit c → digitValue c < base
  toLower_eq_iff : ∀ c, ∀ d < base, c.toLower = Nat.digitChar d ↔ isDigit c ∧ digitValue c = d

/-- A test for digits may be checked among the characters of ASCII when no others pass it. -/
theorem isDigitOf_of_forall_ascii (hbase : 1 < base) (hle : base ≤ 16)
    (hascii : ∀ c, isDigit c → c.toNat < 0x80)
    (hvalue : ∀ code < 0x80, isDigit (Char.ofNat code) → digitValue (Char.ofNat code) < base)
    (hlower : ∀ code < 0x80, ∀ d < base, (Char.ofNat code).toLower = Nat.digitChar d ↔
      isDigit (Char.ofNat code) ∧ digitValue (Char.ofNat code) = d) :
    IsDigitOf base isDigit where
  one_lt := hbase
  value_lt := fun c hc ↦
    Unicode.forall_of_forall_code (p := fun c ↦ isDigit c → digitValue c < base) 0x80 hvalue c
      (hascii c hc) hc
  toLower_eq_iff := by
    intro c d hd
    rcases Nat.lt_or_ge c.toNat 0x80 with hc | hc
    · exact Unicode.forall_of_forall_code
        (p := fun c ↦ ∀ d < base, c.toLower = Nat.digitChar d ↔ isDigit c ∧ digitValue c = d) 0x80
        hlower c hc d hd
    · -- Beyond ASCII there are neither digits nor capitals.
      have hupper : c.isUpper = false := by
        refine Bool.eq_false_iff.2 fun hupper ↦ ?_
        have hle := (Unicode.bounds_of_isUpper hupper).2
        omega
      have hdigit : ∀ d < 16, (Nat.digitChar d).toNat < 0x80 := by decide
      rw [Unicode.toLower_eq_self hupper]
      refine iff_of_false ?_ fun h ↦ absurd (hascii c h.1) (Nat.not_lt.2 hc)
      rintro rfl
      have hlt := hdigit d (Nat.lt_of_lt_of_le hd hle)
      omega

theorem isDigitOf_ten : IsDigitOf 10 Char.isDigit :=
  isDigitOf_of_forall_ascii (by decide) (by decide)
    (fun _ hc ↦ Nat.lt_of_le_of_lt (Unicode.bounds_of_isDigit hc).2 (by decide))
    (by decide +kernel) (by decide +kernel)

theorem toNat_lt_of_isHexDigit (h : isHexDigit c) : c.toNat < 0x80 := by
  have hletter {last : Char} (hlast : last.toNat < 0x80) (hle : c ≤ last) : c.toNat < 0x80 :=
    Nat.lt_of_le_of_lt hle hlast
  simp only [isHexDigit, Bool.or_eq_true, Bool.and_eq_true, decide_eq_true_eq] at h
  rcases h with (hdigit | hlower) | hupper
  · exact Nat.lt_of_le_of_lt (Unicode.bounds_of_isDigit hdigit).2 (by decide)
  · exact hletter (by decide) hlower.2
  · exact hletter (by decide) hupper.2

theorem isAlphanum_of_isHexDigit (h : isHexDigit c) : c.isAlphanum :=
  Unicode.forall_of_forall_code (p := fun c ↦ isHexDigit c → c.isAlphanum) 0x80 (by decide +kernel)
    c (toNat_lt_of_isHexDigit h) h

theorem isDigitOf_sixteen : IsDigitOf 16 isHexDigit :=
  isDigitOf_of_forall_ascii (by decide) (by decide) (fun _ ↦ toNat_lt_of_isHexDigit)
    (by decide +kernel) (by decide +kernel)

/-! ### Values -/

theorem numeralValue_concat (base : Nat) (s : Text) (c : Char) :
    numeralValue base (s ++ [c]) = base * numeralValue base s + digitValue c := by
  rw [numeralValue, List.foldl_append]
  rfl

/-- Zeros in front change nothing. -/
theorem numeralValue_replicate_append (base zeros : Nat) (s : Text) :
    numeralValue base (List.replicate zeros '0' ++ s) = numeralValue base s := by
  induction zeros with
  | zero => rfl
  | succ zeros ih => simpa [List.replicate_succ, numeralValue, digitValue] using ih

/-- Digits that are those of a number, in letters of either case, have the number as their value. -/
theorem IsDigitOf.numeralValue_eq (h : IsDigitOf base isDigit)
    (hs : asciiLower s = Nat.toDigits base n) :
    (∀ c ∈ s, isDigit c) ∧ numeralValue base s = n := by
  induction n using Nat.strongRecOn generalizing s with
  | ind n ih =>
    rw [Nat.toDigits_eq_if h.one_lt] at hs
    split at hs
    · rename_i hn
      obtain ⟨c, rfl, hc⟩ := List.map_eq_singleton_iff.1 hs
      obtain ⟨hdigit, hvalue⟩ := (h.toLower_eq_iff c n hn).1 hc
      exact ⟨by simpa using hdigit, by simpa [numeralValue] using hvalue⟩
    · rename_i hn
      obtain ⟨front, last, rfl, hfront, hlast⟩ := List.map_eq_append_iff.1 hs
      obtain ⟨c, rfl, hc⟩ := List.map_eq_singleton_iff.1 hlast
      have hbase : 0 < base := Nat.lt_of_succ_lt h.one_lt
      obtain ⟨hdigit, hvalue⟩ := (h.toLower_eq_iff c _ (Nat.mod_lt n hbase)).1 hc
      have hlt : n / base < n := Nat.div_lt_self (by omega) h.one_lt
      obtain ⟨hdigits, hvalues⟩ := ih _ hlt hfront
      refine ⟨List.forall_mem_append.2 ⟨hdigits, by simpa using hdigit⟩, ?_⟩
      rw [numeralValue_concat, hvalues, hvalue, Nat.div_add_mod]

/-- Any digits are those of their value behind some zeros. -/
theorem IsDigitOf.isNumeral (h : IsDigitOf base isDigit) (hs : s ≠ [])
    (hdigits : ∀ c ∈ s, isDigit c) : IsNumeral base (numeralValue base s) s := by
  induction s using List.reverseRecOn with
  | nil => exact absurd rfl hs
  | append_singleton s c ih =>
    obtain ⟨hfront, hlast⟩ := List.forall_mem_append.1 hdigits
    have hc : isDigit c := hlast c (List.mem_singleton_self c)
    have hlt := h.value_lt c hc
    have hlower : asciiLower [c] = Nat.toDigits base (digitValue c) := by
      rw [Nat.toDigits_of_lt_base hlt]
      exact congrArg ([·]) ((h.toLower_eq_iff c _ hlt).2 ⟨hc, rfl⟩)
    rw [numeralValue_concat]
    by_cases hnil : s = []
    · subst hnil
      exact ⟨0, [c], rfl, by simpa [numeralValue] using hlower⟩
    obtain ⟨zeros, digits, hsplit, hdigits⟩ := ih hnil hfront
    rcases Nat.eq_zero_or_pos (numeralValue base s) with hzero | hpos
    · -- Digits of the value zero are zeros.
      rw [hzero, Nat.toDigits_zero] at hdigits
      obtain ⟨d, rfl, hd⟩ := List.map_eq_singleton_iff.1 hdigits
      obtain rfl : d = '0' := Unicode.eq_of_toLower_eq hd (by decide)
      refine ⟨zeros + 1, [c], ?_, by rw [hzero, Nat.mul_zero, Nat.zero_add, hlower]⟩
      rw [hsplit, List.replicate_succ']
    · refine ⟨zeros, digits ++ [c], by rw [hsplit, List.append_assoc], ?_⟩
      rw [← Nat.toDigits_append_toDigits h.one_lt hpos hlt, ← hdigits, ← hlower]
      exact List.map_append

/-- The numerals of a number are the texts of digits that have the number as their value. -/
theorem isNumeral_iff (h : IsDigitOf base isDigit) :
    IsNumeral base n s ↔ s ≠ [] ∧ (∀ c ∈ s, isDigit c) ∧ numeralValue base s = n := by
  constructor
  · rintro ⟨zeros, digits, rfl, hdigits⟩
    obtain ⟨hall, hvalue⟩ := h.numeralValue_eq hdigits
    have hzero : isDigit '0' := ((h.toLower_eq_iff '0' 0 (Nat.lt_of_succ_lt h.one_lt)).1 rfl).1
    refine ⟨?_, List.forall_mem_append.2 ⟨fun c hc ↦ ?_, hall⟩, ?_⟩
    · rintro hnil
      rw [(List.append_eq_nil_iff.1 hnil).2] at hdigits
      exact Nat.toDigits_ne_nil hdigits.symm
    · rwa [List.eq_of_mem_replicate hc]
    · rw [numeralValue_replicate_append, hvalue]
  · rintro ⟨hne, hdigits, rfl⟩
    exact h.isNumeral hne hdigits

end ApiReference.Text
