import ApiReference.Proofs.Schema.ResultPhrase
import Mathlib.Data.Nat.Find

/-!
# The result that a description names

The result type of a description is found by a search for the phrases. What is found can be said
without the search: of the four phrases the first one that occurs anywhere counts, of its instances
the one that starts first, and of the types that the phrase can name there the longest.

## Main definitions

* `PhraseKind.Occurs`: whether a phrase occurs in a description.
* `PhraseKind.Names`: the type that a phrase names in a description, and the place where it does.

## Main results

* `PhraseKind.first?_eq_some_iff`, `PhraseKind.first?_eq_none_iff`: what the search for a phrase
  finds.
* `resultType?_eq_first_leftmost_longest`: the type that a description names as the result.
-/

namespace ApiReference.Schema

namespace PhraseKind

/-- A phrase occurs in a description when it names a type at some place. -/
def Occurs (kind : PhraseKind) (description : Text) : Prop :=
  ∃ before behind type, description = before ++ behind ∧ InstanceAt kind before behind type

/-- A type is named by a phrase in a description when it is the longest one at the first place where
the phrase names any. -/
structure Names (kind : PhraseKind) (description before behind : Text) (type : NamedType) :
    Prop where
  place : description = before ++ behind
  longest : IsLongestAt kind before behind type
  leftmost : ∀ before' behind' other, description = before' ++ behind' →
    InstanceAt kind before' behind' other → before.length ≤ before'.length

variable {kind : PhraseKind} {before behind s description result : Text} {type : NamedType}

/-- No phrase starts at the end of a text. -/
theorem not_instanceAt_nil : ¬ InstanceAt kind before [] type := by
  intro h
  obtain ⟨c, word, htext, -⟩ := type.exists_text_eq_cons
  generalize hs : ([] : Text) = s at h
  cases h <;> simp [htext] at hs

/-- A phrase names no two types in a description. -/
theorem Names.text_unique {before' behind' : Text} {type' : NamedType}
    (h : kind.Names description before behind type)
    (h' : kind.Names description before' behind' type') : type.text = type'.text := by
  have hlength : before.length = before'.length :=
    Nat.le_antisymm (h.leftmost _ _ type' h'.place h'.longest.1)
      (h'.leftmost _ _ type h.place h.longest.1)
  obtain ⟨rfl, rfl⟩ := List.append_inj (h.place.symm.trans h'.place) hlength
  have htold := (phrase_eq_some_iff kind).2 ⟨type, rfl, h.longest⟩
  have htold' := (phrase_eq_some_iff kind).2 ⟨type', rfl, h'.longest⟩
  exact Option.some.inj (htold.symm.trans htold')

/-- The search goes on as long as the phrase names nothing, and what it finds behind the places
where nothing was found is what the phrase names in the whole text. -/
theorem first?_eq_some_iff_of_forall_not (start : Text)
    (hnone : ∀ before behind type, start ++ s = before ++ behind → before.length < start.length →
      ¬ InstanceAt kind before behind type) :
    kind.phrase.first? start.getLast? s = some result ↔
      ∃ before behind type, kind.Names (start ++ s) before behind type ∧ type.text = result := by
  induction s generalizing start with
  | nil =>
    refine iff_of_false (by simp [Phrase.first?]) ?_
    rintro ⟨before, behind, type, ⟨hplace, ⟨hinstance, -⟩, -⟩, -⟩
    have hlength := congrArg List.length hplace
    rw [List.append_nil, List.length_append] at hlength
    cases behind with
    | nil => exact not_instanceAt_nil hinstance
    | cons c behind =>
      rw [List.length_cons] at hlength
      exact hnone before _ type hplace (by omega) hinstance
  | cons c s ih =>
    cases htold : kind.phrase start.getLast? (c :: s) with
    | some told =>
      obtain ⟨type, rfl, htype⟩ := (phrase_eq_some_iff kind).1 htold
      have hnames : kind.Names (start ++ c :: s) start (c :: s) type := by
        refine ⟨rfl, htype, fun before behind other hplace hother ↦ ?_⟩
        exact Nat.le_of_not_lt fun hlt ↦ hnone before behind other hplace hlt hother
      rw [Phrase.first?, htold, Option.some.injEq]
      constructor
      · rintro rfl
        exact ⟨start, c :: s, type, hnames, rfl⟩
      · rintro ⟨before, behind, type', hnames', rfl⟩
        exact hnames.text_unique hnames'
    | none =>
      have hlast : some c = (start ++ [c]).getLast? := by simp
      have hstart : start ++ c :: s = (start ++ [c]) ++ s := by simp
      rw [Phrase.first?, htold, hlast, hstart]
      refine ih (start ++ [c]) fun before behind type hplace hlt hinstance ↦ ?_
      rw [← hstart] at hplace
      rw [List.length_append, List.length_singleton] at hlt
      rcases Nat.lt_succ_iff_lt_or_eq.1 hlt with hlt | hlength
      · exact hnone before behind type hplace hlt hinstance
      · obtain ⟨rfl, rfl⟩ := List.append_inj hplace hlength.symm
        exact phrase_eq_none_iff.1 htold type hinstance

/-- The search for a phrase finds what the phrase names. -/
theorem first?_eq_some_iff :
    kind.phrase.first? none description = some result ↔
      ∃ before behind type, kind.Names description before behind type ∧ type.text = result :=
  first?_eq_some_iff_of_forall_not [] fun _ _ _ _ hlt ↦ absurd hlt (Nat.not_lt_zero _)

/-- A phrase that occurs in a description names a type there. -/
theorem Occurs.exists_names (h : kind.Occurs description) :
    ∃ before behind type, kind.Names description before behind type := by
  classical
  have hlengths : ∃ length before behind type, before.length = length ∧
      description = before ++ behind ∧ InstanceAt kind before behind type := by
    obtain ⟨before, behind, type, hplace, hinstance⟩ := h
    exact ⟨_, before, behind, type, rfl, hplace, hinstance⟩
  obtain ⟨before, behind, type, hlength, hplace, hinstance⟩ := Nat.find_spec hlengths
  obtain ⟨told, htold⟩ := Option.isSome_iff_exists.1 (isSome_phrase hinstance)
  obtain ⟨type', -, hlongest⟩ := (phrase_eq_some_iff kind).1 htold
  refine ⟨before, behind, type', hplace, hlongest, fun before' behind' other hplace' hother ↦ ?_⟩
  rw [hlength]
  exact Nat.find_min' hlengths ⟨before', behind', other, rfl, hplace', hother⟩

/-- The search for a phrase finds nothing exactly when the phrase does not occur. -/
theorem first?_eq_none_iff :
    kind.phrase.first? none description = none ↔ ¬ kind.Occurs description := by
  constructor
  · intro hnone hoccurs
    obtain ⟨before, behind, type, hnames⟩ := hoccurs.exists_names
    have hfound := first?_eq_some_iff.2 ⟨before, behind, type, hnames, rfl⟩
    rw [hnone] at hfound
    cases hfound
  · intro hnot
    refine Option.eq_none_iff_forall_ne_some.2 fun result hfound ↦ hnot ?_
    obtain ⟨before, behind, type, hnames, -⟩ := first?_eq_some_iff.1 hfound
    exact ⟨before, behind, type, hnames.place, hnames.longest.1⟩

/-- A type that a phrase names at a place stands there. -/
theorem InstanceAt.isInfix_text (h : InstanceAt kind before s type) : type.text <:+: s := by
  cases h with
  | form _ article behind => exact ⟨"in form of " ++ article, " object" ++ behind, by simp⟩
  | as _ article noun behind => exact ⟨"as " ++ article, noun ++ behind, by simp⟩
  | passive _ noun verb behind => exact ⟨[], noun ++ verb ++ behind, by simp⟩
  | active _ returns article behind words =>
    exact ⟨returns ++ " " ++ article ++ words.flatMap (· ++ [' ']), behind, by simp⟩

end PhraseKind

/-- The result of a description is a type, and it stands in the description. -/
theorem exists_text_infix_of_resultType? {description result : Text}
    (h : resultType? description = some result) :
    ∃ type : NamedType, type.text = result ∧ result <:+: description := by
  obtain ⟨phrase, hphrase, hfound⟩ := List.exists_of_findSome?_eq_some h
  rw [← PhraseKind.map_phrase_inOrder] at hphrase
  obtain ⟨kind, -, rfl⟩ := List.mem_map.1 hphrase
  obtain ⟨before, behind, type, hnames, rfl⟩ := PhraseKind.first?_eq_some_iff.1 hfound
  refine ⟨type, rfl, hnames.longest.1.isInfix_text.trans ?_⟩
  rw [hnames.place]
  exact (List.suffix_append before behind).isInfix

/-- The type that a description names as the result. -/
theorem resultType?_eq_first_leftmost_longest (description : Text) :
    (resultType? description = none ↔ ∀ kind : PhraseKind, ¬ kind.Occurs description) ∧
      ∀ result, resultType? description = some result ↔
        ∃ earlier kind later, PhraseKind.inOrder = earlier ++ kind :: later ∧
          (∀ other ∈ earlier, ¬ other.Occurs description) ∧
          ∃ before behind type, kind.Names description before behind type ∧ type.text = result := by
  have hsearch : resultType? description =
      PhraseKind.inOrder.findSome? fun kind ↦ kind.phrase.first? none description := by
    rw [resultType?, ← PhraseKind.map_phrase_inOrder, List.findSome?_map]
    rfl
  rw [hsearch]
  constructor
  · simp only [List.findSome?_eq_none_iff, PhraseKind.first?_eq_none_iff, PhraseKind.mem_inOrder,
      true_implies]
  · intro result
    simp only [List.findSome?_eq_some_iff, PhraseKind.first?_eq_some_iff,
      PhraseKind.first?_eq_none_iff]
    constructor
    · rintro ⟨earlier, kind, later, hinOrder, hnames, hearlier⟩
      exact ⟨earlier, kind, later, hinOrder, hearlier, hnames⟩
    · rintro ⟨earlier, kind, later, hinOrder, hearlier, hnames⟩
      exact ⟨earlier, kind, later, hinOrder, hnames, hearlier⟩

end ApiReference.Schema
