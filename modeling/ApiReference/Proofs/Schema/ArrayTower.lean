import ApiReference.Proofs.Schema.DeclaredType
import ApiReference.Proofs.Text.Run
import ApiReference.Schema.ResultPhrase

/-!
# Towers of arrays

Any prose may be put behind `Array of`, a type or not. The words are found there and add a
dimension, and the base is what it was. This is so even when a union comes about, as it does where
the prose starts with `or`: what starts with a small letter has an unknown base by itself. The same
holds of any number of `Array of` by induction on the number.

## Main results

* `DeclaredType.dimensions_eq_zero_iff`: the declared types without dimensions.
* `DeclaredType.base_arrayOf_append`, `DeclaredType.dimensions_arrayOf_append`,
  `DeclaredType.looseUnion_arrayOf_append`: what `Array of` does to a declared type.
* `DeclaredType.base_tower_append`, `DeclaredType.dimensions_tower_append`: what any number of
  `Array of` does to it.
-/

namespace ApiReference.Schema

open Text

namespace DeclaredType

variable {opaqueNames : List Text} {s : Text}

/-! ### Dimensions -/

theorem dimensions_eq_zero_iff : (ofText opaqueNames s).dimensions = 0 ↔ ¬ arrayWords <:+: s := by
  have hpieces : 0 < (pieces arrayWords s).length :=
    List.length_pos_iff.2 (pieces_ne_nil arrayWords s)
  rw [← length_pieces_eq_one_iff (by decide)]
  simp only [ofText]
  omega

/-- `Array of` in front is cut out first, and its space goes on what was the first piece. -/
theorem pieces_arrayOf_append (s : Text) :
    pieces arrayWords (arrayOf ++ s) = [] :: (pieces arrayWords s).modifyHead ([' '] ++ ·) := by
  have harray : arrayOf ++ s = arrayWords ++ ([' '] ++ s) := rfl
  have hspace : ∀ c ∈ [' '], arrayWords.head? ≠ some c := List.forall_mem_singleton.2 (by decide)
  rw [harray, pieces_self_append (by decide), pieces_append hspace (by decide)]

theorem dimensions_arrayOf_append (opaqueNames : List Text) (s : Text) :
    (ofText opaqueNames (arrayOf ++ s)).dimensions = (ofText opaqueNames s).dimensions + 1 := by
  have hpieces : 0 < (pieces arrayWords s).length :=
    List.length_pos_iff.2 (pieces_ne_nil arrayWords s)
  simp only [ofText, pieces_arrayOf_append, List.length_cons, List.length_modifyHead]
  omega

/-! ### Unions -/

/-- An `or` is not behind a space of `Array of`, except behind the last one. -/
theorem or_infix_arrayOf_append_iff :
    [' ', 'o', 'r'] <:+: arrayOf ++ s ↔ [' ', 'o', 'r'] <:+: ' ' :: s := by
  have harray : arrayOf ++ s = 'A' :: 'r' :: 'r' :: 'a' :: 'y' :: ' ' :: 'o' :: 'f' :: ' ' :: s :=
    rfl
  rw [harray]
  simp [List.infix_cons_iff]

theorem looseUnion_arrayOf_append (opaqueNames : List Text) (s : Text) :
    (ofText opaqueNames (arrayOf ++ s)).looseUnion = occurs " or" (' ' :: s) :=
  Bool.eq_iff_iff.2 (occurs_iff.trans (or_infix_arrayOf_append_iff.trans occurs_iff.symm))

/-- The base is unknown when an `or` stands behind a space or at the start. -/
theorem base_eq_any_of_or_infix_cons (h : [' ', 'o', 'r'] <:+: ' ' :: s) :
    (ofText opaqueNames s).base = .any := by
  have hspace : ∀ c ∈ [' '], arrayWords.head? ≠ some c := List.forall_mem_singleton.2 (by decide)
  have hpieces : (pieces arrayWords (' ' :: s)).flatten = ' ' :: (pieces arrayWords s).flatten :=
    flatten_pieces_append hspace (by decide) s
  have htrim := or_infix_trim (or_infix_flatten_pieces h)
  rw [hpieces, trim_cons (by decide)] at htrim
  simp only [ofText]
  split
  · rfl
  · exact htrim.elim BaseType.ofName_eq_any_of_or_infix BaseType.ofName_eq_any_of_or_prefix

/-! ### Bases -/

/-- Where there is no `or`, the base is what is left of the prose without the words of arrays. -/
theorem base_eq_ofName_of_not_or (h : ¬ [' ', 'o', 'r'] <:+: s) :
    (ofText opaqueNames s).base = .ofName opaqueNames (trim (pieces arrayWords s).flatten) := by
  have hor : ¬ occurs " or " s := fun hmem ↦
    h ((List.prefix_append [' ', 'o', 'r'] [' ']).isInfix.trans (occurs_iff.1 hmem))
  exact if_neg hor

theorem base_arrayOf_append (opaqueNames : List Text) (s : Text) :
    (ofText opaqueNames (arrayOf ++ s)).base = (ofText opaqueNames s).base := by
  by_cases h : [' ', 'o', 'r'] <:+: ' ' :: s
  · rw [base_eq_any_of_or_infix_cons h, base_eq_any_of_or_infix (or_infix_arrayOf_append_iff.2 h)]
  · have hflatten : ((pieces arrayWords s).modifyHead ([' '] ++ ·)).flatten =
        ' ' :: (pieces arrayWords s).flatten :=
      flatten_modifyHead_append (pieces_ne_nil arrayWords s)
    rw [base_eq_ofName_of_not_or (mt or_infix_arrayOf_append_iff.1 h),
      base_eq_ofName_of_not_or (mt List.infix_cons h), pieces_arrayOf_append, List.flatten_cons,
      List.nil_append, hflatten, trim_cons (by decide)]

/-! ### Towers -/

theorem tower_append_succ (k : Nat) (s : Text) :
    (List.replicate (k + 1) arrayOf).flatten ++ s =
      arrayOf ++ ((List.replicate k arrayOf).flatten ++ s) := by
  rw [List.replicate_succ, List.flatten_cons, List.append_assoc]

theorem base_tower_append (opaqueNames : List Text) (k : Nat) (s : Text) :
    (ofText opaqueNames ((List.replicate k arrayOf).flatten ++ s)).base =
      (ofText opaqueNames s).base := by
  induction k with
  | zero => rfl
  | succ k ih => rw [tower_append_succ, base_arrayOf_append, ih]

theorem dimensions_tower_append (opaqueNames : List Text) (k : Nat) (s : Text) :
    (ofText opaqueNames ((List.replicate k arrayOf).flatten ++ s)).dimensions =
      k + (ofText opaqueNames s).dimensions := by
  induction k with
  | zero => exact (Nat.zero_add _).symm
  | succ k ih => rw [tower_append_succ, dimensions_arrayOf_append, ih]; omega

end DeclaredType

end ApiReference.Schema
