import ApiReference.Proofs.Text.Occurrence
import ApiReference.Schema.DeclaredType

/-!
# What declared types mean

A declared type refers to another definition only by a capitalized identifier. Prose with an `or`
behind a space is never that simple. The `or` is not lost when the words of arrays are cut out,
since they have no such place in them and cannot reach into one, and what remains either holds the
space or starts with a small letter.

## Main results

* `BaseType.ofName_eq_reference_iff`: the names that refer to definitions.
* `DeclaredType.base_eq_any_of_or_infix`: the base of a union is unknown.
-/

namespace ApiReference.Schema

open Text

variable {opaqueNames : List Text} {name declared s t : Text}

namespace BaseType

/-- A name refers to a definition when it is a capitalized identifier that is nothing else. -/
theorem ofName_eq_reference_iff :
    ofName opaqueNames s = .reference name ↔
      name = s ∧ isIdentifier name ∧ name.head?.any Unicode.isUppercase ∧
        scalarNames.lookup name = none ∧ name ∉ shapelessNames ∧ name ∉ opaqueNames := by
  rw [ofName]
  cases hscalar : scalarNames.lookup s with
  | some known =>
    simp only [reduceCtorEq, false_iff]
    rintro ⟨rfl, -, -, hnone, -⟩
    simp [hnone] at hscalar
  | none =>
    dsimp only
    split
    · rename_i hany
      simp only [reduceCtorEq, false_iff]
      rintro ⟨rfl, hidentifier, -, -, hshapeless, hopaque⟩
      simp [hidentifier, hshapeless, hopaque] at hany
    · rename_i hany
      simp only [Bool.or_eq_true, Bool.not_eq_true', List.contains_iff_mem, not_or,
        Bool.not_eq_false] at hany
      split
      · rename_i hcapital
        constructor
        · rintro ⟨rfl⟩
          exact ⟨rfl, hany.1.1, hcapital, hscalar, hany.1.2, hany.2⟩
        · rintro ⟨rfl, -⟩
          rfl
      · rename_i hcapital
        simp only [reduceCtorEq, false_iff]
        rintro ⟨rfl, -, h, -⟩
        exact hcapital h

/-- A name with an `or` behind a space is no scalar and no identifier. -/
theorem ofName_eq_any_of_or_infix (h : [' ', 'o', 'r'] <:+: name) :
    ofName opaqueNames name = .any := by
  have hscalar : scalarNames.lookup name = none := by
    have hnone : ∀ entry ∈ scalarNames, occurs [' ', 'o', 'r'] entry.1 = false := by decide
    refine List.lookup_eq_none_iff.2 fun entry hentry ↦ bne_iff_ne.2 ?_
    rintro rfl
    exact occurs_eq_false_iff.1 (hnone entry hentry) h
  have hidentifier : isIdentifier name = false := by
    rw [isIdentifier, Bool.and_eq_false_iff]
    exact .inr (List.all_eq_false.2 ⟨' ', h.subset List.mem_cons_self, by decide⟩)
  simp [ofName, hscalar, hidentifier]

/-- A name that starts with a small letter is no scalar and refers to no definition. -/
theorem ofName_eq_any_of_or_prefix (h : ['o', 'r'] <+: name) : ofName opaqueNames name = .any := by
  obtain ⟨rest, rfl⟩ := h
  have hscalar : scalarNames.lookup ('o' :: 'r' :: rest) = none := by
    have hnone : ∀ entry ∈ scalarNames, entry.1.head? ≠ some 'o' := by decide
    exact List.lookup_eq_none_iff.2 fun entry hentry ↦
      bne_iff_ne.2 fun heq ↦ hnone entry hentry (heq ▸ rfl)
  have hcapital : Unicode.isUppercase 'o' = false := by decide
  simp [ofName, hscalar, hcapital]

end BaseType

namespace DeclaredType

/-- An `or` behind a space is not lost when the words of arrays are cut out. -/
theorem or_infix_flatten_pieces (h : [' ', 'o', 'r'] <:+: s) :
    [' ', 'o', 'r'] <:+: (pieces arrayWords s).flatten := by
  fun_induction pieces arrayWords s with
  | case1 => exact h
  | case2 c rest hstart ih =>
    obtain ⟨behind, hbehind⟩ := List.isPrefixOf_iff_prefix.1 hstart
    have hrest : rest.drop (arrayWords.length - 1) = behind := by
      have hdrop := congrArg (List.drop arrayWords.length) hbehind
      rw [List.drop_left] at hdrop
      exact hdrop.symm
    -- The place would start at the space of `Array of`, where an `f` stands instead of the `r`.
    have harray : arrayWords = ['A', 'r', 'r', 'a', 'y', ' ', 'o', 'f'] := rfl
    rw [← hbehind, harray] at h
    rw [hrest] at ih ⊢
    exact ih (by simpa [List.infix_cons_iff] using h)
  | case3 c rest hstart ih =>
    have hflatten : ((pieces arrayWords rest).modifyHead (c :: ·)).flatten =
        c :: (pieces arrayWords rest).flatten :=
      flatten_modifyHead_append (s := [c]) (pieces_ne_nil arrayWords rest)
    rw [hflatten]
    rcases List.infix_cons_iff.1 h with ⟨behind, hbehind⟩ | h
    · obtain ⟨rfl, hrest⟩ := List.cons.inj hbehind
      have hor : ∀ c ∈ ['o', 'r'], arrayWords.head? ≠ some c := by
        intro c hc
        simp only [List.mem_cons, List.not_mem_nil, or_false] at hc
        rcases hc with rfl | rfl <;> decide
      have happend : (pieces arrayWords (['o', 'r'] ++ behind)).flatten =
          ['o', 'r'] ++ (pieces arrayWords behind).flatten :=
        flatten_pieces_append hor (by decide) behind
      rw [← hrest]
      exact ⟨[], (pieces arrayWords behind).flatten, congrArg (' ' :: ·) happend.symm⟩
    · exact List.infix_cons (ih h)

/-- Trimming takes at most the space from an `or` behind a space. -/
theorem or_infix_trim (h : [' ', 'o', 'r'] <:+: s) :
    [' ', 'o', 'r'] <:+: trim s ∨ ['o', 'r'] <+: trim s := by
  obtain ⟨before, behind, rfl⟩ := h
  have hstart : trimStart (before ++ [' ', 'o', 'r'] ++ behind) =
      trimStart (before ++ [' ']) ++ 'o' :: 'r' :: behind := by
    rw [← trimStart_append_cons (by decide)]
    simp
  have htrim : trim (before ++ [' ', 'o', 'r'] ++ behind) =
      trimStart (before ++ [' ']) ++ 'o' :: 'r' :: trimEnd behind := by
    have hend := trimEnd_append_cons (s := trimStart (before ++ [' ']) ++ ['o']) (t := behind)
      (c := 'r') (by decide)
    rw [trim, hstart]
    simpa using hend
  have hspace : trimStart (before ++ [' ']) = [] ∨
      trimStart (before ++ [' ']) = trimStart before ++ [' '] := by
    rw [trimStart, List.dropWhile_append]
    split
    · exact .inl rfl
    · exact .inr rfl
  rw [htrim]
  rcases hspace with hnil | hspace
  · exact .inr ⟨trimEnd behind, by rw [hnil]; rfl⟩
  · exact .inl ⟨trimStart before, trimEnd behind, by rw [hspace]; simp⟩

/-- The base of a union is unknown. -/
theorem base_eq_any_of_or_infix (h : [' ', 'o', 'r'] <:+: declared) :
    (ofText opaqueNames declared).base = .any := by
  simp only [ofText]
  split
  · rfl
  · rcases or_infix_trim (or_infix_flatten_pieces h) with h | h
    · exact BaseType.ofName_eq_any_of_or_infix h
    · exact BaseType.ofName_eq_any_of_or_prefix h

/-- A definition that is referred to has a capitalized identifier as its name. -/
theorem isIdentifier_of_base_eq_reference
    (h : (ofText opaqueNames declared).base = .reference name) :
    isIdentifier name ∧ name.head?.any Unicode.isUppercase := by
  simp only [ofText] at h
  split at h
  · simp at h
  · obtain ⟨-, hidentifier, hcapital, -⟩ := BaseType.ofName_eq_reference_iff.1 h
    exact ⟨hidentifier, hcapital⟩

end DeclaredType

end ApiReference.Schema
