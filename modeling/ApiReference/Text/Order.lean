import ApiReference.Text.Basic

/-!
# The order of texts

Texts are ordered as in a dictionary, by the code points of their characters: the first character in
which two texts differ decides, and a text comes before every longer one that starts with it.

## Main definitions

* `Text.le`: whether a text comes before another one or equals it.

## Main results

* `Text.le_trans`, `Text.le_total`, `Text.le_antisymm`: the order is linear.
-/

namespace ApiReference.Text

/-- Whether a text comes before another one or equals it. -/
def le : Text → Text → Bool
  | [], _ => true
  | _ :: _, [] => false
  | a :: s, b :: t => Nat.blt a.toNat b.toNat || (a == b && le s t)

private theorem le_cons_cons_iff {a b : Char} {s t : Text} :
    le (a :: s) (b :: t) ↔ a.toNat < b.toNat ∨ (a = b ∧ le s t) := by
  simp [le, Nat.blt_eq]

theorem le_refl (s : Text) : le s s := by
  induction s with
  | nil => rfl
  | cons a s ih => exact le_cons_cons_iff.2 (.inr ⟨rfl, ih⟩)

theorem le_trans {s t u : Text} (hst : le s t) (htu : le t u) : le s u := by
  induction s generalizing t u with
  | nil => rfl
  | cons a s ih =>
    cases t with
    | nil => simp [le] at hst
    | cons b t =>
      cases u with
      | nil => simp [le] at htu
      | cons c u =>
        rw [le_cons_cons_iff] at *
        rcases hst with hab | ⟨rfl, hst⟩
        · rcases htu with hbc | ⟨rfl, -⟩
          · exact .inl (Nat.lt_trans hab hbc)
          · exact .inl hab
        · rcases htu with hac | ⟨rfl, htu⟩
          · exact .inl hac
          · exact .inr ⟨rfl, ih hst htu⟩

theorem le_total (s t : Text) : le s t || le t s := by
  induction s generalizing t with
  | nil => rfl
  | cons a s ih =>
    cases t with
    | nil => rfl
    | cons b t =>
      rw [Bool.or_eq_true, le_cons_cons_iff, le_cons_cons_iff]
      rcases Nat.lt_trichotomy a.toNat b.toNat with hab | hab | hab
      · exact .inl (.inl hab)
      · obtain rfl := Char.toNat_inj.1 hab
        rcases Bool.or_eq_true_iff.1 (ih t) with hst | hts
        · exact .inl (.inr ⟨rfl, hst⟩)
        · exact .inr (.inr ⟨rfl, hts⟩)
      · exact .inr (.inl hab)

theorem le_antisymm {s t : Text} (hst : le s t) (hts : le t s) : s = t := by
  induction s generalizing t with
  | nil =>
    cases t with
    | nil => rfl
    | cons b t => simp [le] at hts
  | cons a s ih =>
    cases t with
    | nil => simp [le] at hst
    | cons b t =>
      rw [le_cons_cons_iff] at *
      rcases hst with hab | ⟨rfl, hst⟩
      · rcases hts with hba | ⟨rfl, -⟩ <;> omega
      · rcases hts with haa | ⟨-, hts⟩
        · omega
        · rw [ih hst hts]

end ApiReference.Text
