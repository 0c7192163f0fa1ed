import ApiReference.Proofs.Schema.LeadingWord
import ApiReference.Proofs.Schema.ResultType
import Mathlib.Data.Option.Basic

/-!
# The phrases at a place

A phrase is read from the place where it starts, and each of its parts is taken off in turn. What is
told there can be said without that: a place is an instance of a phrase for each type that the
phrase can name there, and the longest of these types is told.

## Main definitions

* `PhraseKind`, `PhraseKind.InstanceAt`: the four phrases, and the places where they name types.
* `PhraseKind.IsLongestAt`: the longest type that a phrase names at a place.

## Main results

* `PhraseKind.phrase_eq_some_iff`, `PhraseKind.phrase_eq_none_iff`: what a phrase tells at a place.
-/

namespace ApiReference.Schema

open Text

/-! ### Phrases -/

/-- The four phrases. -/
inductive PhraseKind where
  | form
  | as
  | passive
  | active
  deriving DecidableEq

namespace PhraseKind

/-- The phrases, the most telling first. -/
def inOrder : List PhraseKind := [form, as, passive, active]

/-- Between two parts of a text a word starts or ends. -/
def IsWordBoundary (before behind : Text) : Prop :=
  belongsToWord before.getLast? ≠ belongsToWord behind.head?

/-- A phrase names a type at a place of a text, which is given by what is before it and what starts
at it. -/
inductive InstanceAt : PhraseKind → Text → Text → NamedType → Prop
  | form (before article behind : Text) (type : NamedType)
      (harticle : article ∈ [("a " : Text), "an "]) :
      InstanceAt form before ("in form of " ++ article ++ type.text ++ " object" ++ behind) type
  | as (before article noun behind : Text) (type : NamedType)
      (hstart : IsWordBoundary before ("as " ++ article ++ type.text ++ noun ++ behind))
      (harticle : article ∈ [[], ("a " : Text), "an "])
      (hnoun : noun ∈ [(" object" : Text), " objects"])
      (hend : IsWordBoundary (before ++ "as " ++ article ++ type.text ++ noun) behind) :
      InstanceAt as before ("as " ++ article ++ type.text ++ noun ++ behind) type
  | passive (before noun verb behind : Text) (type : NamedType)
      (hnoun : noun ∈ [[], (" object" : Text), " objects"])
      (hverb : verb ∈ [(" is returned" : Text), " are returned"]) :
      InstanceAt passive before (type.text ++ noun ++ verb ++ behind) type
  | active (before returns article behind : Text) (words : List Text) (type : NamedType)
      (hstart : IsWordBoundary before
        (returns ++ " " ++ article ++ words.flatMap (· ++ [' ']) ++ type.text ++ behind))
      (hreturns : IsInAnyCase "returns" returns)
      (harticle : article ∈ [[], ("a " : Text), "an ", "the "])
      (hwords : ∀ word ∈ words, IsLowerWord word) :
      InstanceAt active before
        (returns ++ " " ++ article ++ words.flatMap (· ++ [' ']) ++ type.text ++ behind) type

variable {before behind rest s result : Text} {type : NamedType} {kind : PhraseKind}

/-! ### Parts of phrases -/

/-- One of the patterns that are taken off a text is what the text starts with. -/
theorem exists_of_afterAny?_eq_some {patterns : List Text} (h : afterAny? patterns s = some rest) :
    ∃ lead ∈ patterns, s = lead ++ rest := by
  obtain ⟨lead, hlead, hafter⟩ := List.exists_of_findSome?_eq_some h
  exact ⟨lead, hlead, after?_eq_some_iff.1 hafter⟩

/-- What is left of a text when one of the patterns may have been taken off. -/
theorem exists_of_afterAny?_getD (patterns : List Text) (s : Text) :
    ∃ lead ∈ [] :: patterns, s = lead ++ (afterAny? patterns s).getD s := by
  cases h : afterAny? patterns s with
  | none => exact ⟨[], List.mem_cons_self, rfl⟩
  | some rest =>
    obtain ⟨lead, hlead, hs⟩ := exists_of_afterAny?_eq_some h
    exact ⟨lead, List.mem_cons_of_mem _ hlead, hs⟩

/-- No pattern is taken off a text that starts with another character. -/
theorem afterAny?_eq_none {patterns : List Text} {c : Char}
    (h : ∀ pattern ∈ patterns, pattern ≠ [] ∧ pattern.head? ≠ some c) :
    afterAny? patterns (c :: s) = none := by
  refine List.findSome?_eq_none_iff.2 fun pattern hpattern ↦ ?_
  refine Option.eq_none_iff_forall_ne_some.2 fun rest hrest ↦ ?_
  obtain ⟨hne, hhead⟩ := h pattern hpattern
  have hs := congrArg List.head? (after?_eq_some_iff.1 hrest)
  rw [List.head?_append_of_ne_nil _ hne] at hs
  exact hhead hs.symm

theorem afterAny?_article {article : Text} (h : article ∈ [("a " : Text), "an "]) (rest : Text) :
    afterAny? ["a ", "an "] (article ++ rest) = some rest := by
  simp only [List.mem_cons, List.not_mem_nil, or_false] at h
  rcases h with rfl | rfl <;> rfl

/-- A word starts before a word character when the character before belongs to no word. -/
theorem isWordBoundary_iff_of_head? {c : Char} (hc : Unicode.isWordChar c)
    (h : s.head? = some c) : IsWordBoundary before s ↔ belongsToWord before.getLast? = false := by
  have hs : belongsToWord (some c) = true := hc
  rw [IsWordBoundary, h, hs, ne_eq, Bool.not_eq_true]

/-- A word ends behind a word character when the character behind belongs to no word. -/
theorem isWordBoundary_iff_of_getLast? {c : Char} (hc : Unicode.isWordChar c)
    (h : s.getLast? = some c) : IsWordBoundary s behind ↔ belongsToWord behind.head? = false := by
  have hs : belongsToWord (some c) = true := hc
  rw [IsWordBoundary, h, hs, ne_comm, ne_eq, Bool.not_eq_true]

/-! ### Phrases at a place -/

theorem formPhrase_eq_some_iff (previous : Option Char) :
    formPhrase previous s = some result ↔
      ∃ type : NamedType, type.text = result ∧ InstanceAt form before s type := by
  constructor
  · intro h
    simp only [formPhrase, Option.bind_eq_bind, Option.bind_eq_some_iff] at h
    obtain ⟨s₁, h₁, s₂, h₂, ⟨read, s₃⟩, h₃, s₄, h₄, h⟩ := h
    obtain rfl : read = result := Option.some.inj h
    obtain ⟨type, rfl, rfl, -⟩ := exists_longest_of_readType? h₃
    obtain ⟨article, harticle, rfl⟩ := exists_of_afterAny?_eq_some h₂
    obtain rfl : s = _ := after?_eq_some_iff.1 h₁
    obtain rfl : s₃ = _ := after?_eq_some_iff.1 h₄
    refine ⟨type, rfl, ?_⟩
    simpa only [List.append_assoc] using InstanceAt.form before article s₄ type harticle
  · rintro ⟨type, rfl, h⟩
    cases h with
    | form _ article behind _ harticle =>
      have hread : readType? (type.text ++ ((" object" : Text) ++ behind)) =
          some (type.text, (" object" : Text) ++ behind) :=
        readType?_text_append type (by simp) (by rintro ⟨_, ⟨⟩⟩)
      simp only [formPhrase, List.append_assoc, Option.bind_eq_bind, Option.bind_eq_some_iff]
      exact ⟨_, after?_eq_some_iff.2 rfl, _, afterAny?_article harticle _, _, hread, _,
        after?_eq_some_iff.2 rfl, rfl⟩

/-- An article before a type is taken off, and a type without an article stays. -/
theorem getD_afterAny?_article {article : Text} (h : article ∈ [[], ("a " : Text), "an "])
    (type : NamedType) (rest : Text) :
    (afterAny? ["a ", "an "] (article ++ (type.text ++ rest))).getD
      (article ++ (type.text ++ rest)) = type.text ++ rest := by
  rcases List.mem_cons.1 h with rfl | harticle
  · obtain ⟨c, word, htext, hc⟩ := type.exists_text_eq_cons
    have hnone : afterAny? ["a ", "an "] (c :: (word ++ rest)) = none := by
      refine afterAny?_eq_none ?_
      have hne : c ≠ 'a' := by
        rintro rfl
        exact absurd hc (by decide)
      simp [hne.symm]
    rw [List.nil_append, htext, List.cons_append, hnone]
    rfl
  · rw [afterAny?_article harticle]
    rfl

/-- A text behind `object` may go on with the plural, where the word ends. -/
theorem exists_after?_object {noun : Text} (h : noun ∈ [(" object" : Text), " objects"])
    (hend : belongsToWord behind.head? = false) :
    ∃ rest, after? " object" (noun ++ behind) = some rest ∧
      (after? "s" rest).getD rest = behind := by
  simp only [List.mem_cons, List.not_mem_nil, or_false] at h
  rcases h with rfl | rfl
  · refine ⟨behind, after?_eq_some_iff.2 rfl, ?_⟩
    cases hafter : after? "s" behind with
    | none => rfl
    | some rest =>
      have hs : belongsToWord (some 's') = true := rfl
      rw [after?_eq_some_iff.1 hafter] at hend
      exact absurd (hs.symm.trans hend) (by decide)
  · exact ⟨("s" : Text) ++ behind, after?_eq_some_iff.2 rfl, rfl⟩

theorem exists_object_of_after? (h : after? " object" s = some rest) :
    ∃ noun ∈ [(" object" : Text), " objects"], s = noun ++ (after? "s" rest).getD rest := by
  rw [after?_eq_some_iff] at h
  cases hafter : after? "s" rest with
  | none => exact ⟨" object", by simp, h⟩
  | some behind =>
    rw [after?_eq_some_iff] at hafter
    exact ⟨" objects", by simp, by rw [h, hafter]; rfl⟩

/-- The plural and the singular end with a letter. -/
theorem isWordBoundary_object {noun : Text} (h : noun ∈ [(" object" : Text), " objects"]) :
    IsWordBoundary (s ++ noun) behind ↔ belongsToWord behind.head? = false := by
  simp only [List.mem_cons, List.not_mem_nil, or_false] at h
  rcases h with rfl | rfl
  · exact isWordBoundary_iff_of_getLast? (c := 't') rfl (by simp)
  · exact isWordBoundary_iff_of_getLast? (c := 's') rfl (by simp)

theorem asPhrase_eq_some_iff :
    asPhrase before.getLast? s = some result ↔
      ∃ type : NamedType, type.text = result ∧ InstanceAt as before s type := by
  constructor
  · intro h
    simp only [asPhrase, Option.bind_eq_bind, Option.bind_eq_some_iff, Option.guard_eq_some',
      Bool.not_eq_true'] at h
    obtain ⟨_, hstart, s₁, h₁, ⟨read, s₃⟩, h₃, s₄, h₄, _, hend, h⟩ := h
    obtain rfl : read = result := Option.some.inj h
    obtain ⟨type, rfl, hs, -⟩ := exists_longest_of_readType? h₃
    obtain ⟨article, harticle, hs₁⟩ := exists_of_afterAny?_getD ["a ", "an "] s₁
    obtain ⟨noun, hnoun, hs₃⟩ := exists_object_of_after? h₄
    obtain rfl : s = _ := after?_eq_some_iff.1 h₁
    obtain rfl : s₃ = _ := hs₃
    refine ⟨type, rfl, ?_⟩
    rw [hs₁, hs]
    have hinstance := InstanceAt.as before article noun _ type
      ((isWordBoundary_iff_of_head? (c := 'a') rfl rfl).2 hstart) harticle hnoun
      ((isWordBoundary_object hnoun).2 hend)
    simpa only [List.append_assoc] using hinstance
  · rintro ⟨type, rfl, h⟩
    cases h with
    | as _ article noun behind _ hstart harticle hnoun hend =>
      have hprevious := (isWordBoundary_iff_of_head? (c := 'a') rfl rfl).1 hstart
      have hnext := (isWordBoundary_object hnoun).1 hend
      obtain ⟨rest, hobject, hplural⟩ := exists_after?_object hnoun hnext
      have hread :
          readType? (type.text ++ (noun ++ behind)) = some (type.text, noun ++ behind) := by
        simp only [List.mem_cons, List.not_mem_nil, or_false] at hnoun
        rcases hnoun with rfl | rfl <;>
          exact readType?_text_append type (by simp) (by rintro ⟨_, ⟨⟩⟩)
      simp only [asPhrase, List.append_assoc, Option.bind_eq_bind, Option.bind_eq_some_iff,
        Option.guard_eq_some', Bool.not_eq_true']
      exact ⟨(), hprevious, _, after?_eq_some_iff.2 rfl, _,
        (getD_afterAny?_article harticle type _).symm ▸ hread, _, hobject, (), hplural.symm ▸ hnext,
        rfl⟩

theorem passivePhrase_eq_some_iff (previous : Option Char) :
    passivePhrase previous s = some result ↔
      ∃ type : NamedType, type.text = result ∧ InstanceAt passive before s type := by
  constructor
  · intro h
    simp only [passivePhrase, Option.bind_eq_bind, Option.bind_eq_some_iff] at h
    obtain ⟨⟨read, s₁⟩, h₁, behind, h₂, h⟩ := h
    obtain rfl : read = result := Option.some.inj h
    obtain ⟨type, rfl, rfl, -⟩ := exists_longest_of_readType? h₁
    obtain ⟨noun, hnoun, hs₁⟩ := exists_of_afterAny?_getD [" objects", " object"] s₁
    obtain ⟨verb, hverb, hs₂⟩ := exists_of_afterAny?_eq_some h₂
    refine ⟨type, rfl, ?_⟩
    have hnoun' : noun ∈ [[], (" object" : Text), " objects"] := by
      simpa [or_comm] using hnoun
    rw [hs₁, hs₂]
    have hinstance := InstanceAt.passive before noun verb behind type hnoun' hverb
    simpa only [List.append_assoc] using hinstance
  · rintro ⟨type, rfl, h⟩
    cases h with
    | passive _ noun verb behind _ hnoun hverb =>
      simp only [List.mem_cons, List.not_mem_nil, or_false] at hnoun hverb
      have hread : readType? (type.text ++ (noun ++ (verb ++ behind))) =
          some (type.text, noun ++ (verb ++ behind)) := by
        rcases hnoun with rfl | rfl | rfl <;> rcases hverb with rfl | rfl <;>
          exact readType?_text_append type (by simp) (by rintro ⟨_, ⟨⟩⟩)
      have hrest : (afterAny? [" objects", " object"] (noun ++ (verb ++ behind))).getD
          (noun ++ (verb ++ behind)) = verb ++ behind := by
        rcases hnoun with rfl | rfl | rfl <;> rcases hverb with rfl | rfl <;> rfl
      have hbehind :
          afterAny? [" is returned", " are returned"] (verb ++ behind) = some behind := by
        rcases hverb with rfl | rfl <;> rfl
      simp only [passivePhrase, List.append_assoc, Option.bind_eq_bind, Option.bind_eq_some_iff]
      exact ⟨_, hread, _, hrest.symm ▸ hbehind, rfl⟩

/-- A text with an article or none before its lower-case words has just more of them. -/
theorem exists_lowerWords_of_article {article : Text} {words : List Text}
    (harticle : article ∈ [[], ("a " : Text), "an ", "the "])
    (hwords : ∀ word ∈ words, IsLowerWord word) :
    ∃ words' : List Text, (∀ word ∈ words', IsLowerWord word) ∧
      article ++ words.flatMap (· ++ [' ']) = words'.flatMap (· ++ [' ']) := by
  have ha : IsLowerWord "a" := ⟨by decide, List.all_eq_true.1 rfl⟩
  have han : IsLowerWord "an" := ⟨by decide, List.all_eq_true.1 rfl⟩
  have hthe : IsLowerWord "the" := ⟨by decide, List.all_eq_true.1 rfl⟩
  simp only [List.mem_cons, List.not_mem_nil, or_false] at harticle
  rcases harticle with rfl | rfl | rfl | rfl
  · exact ⟨words, hwords, rfl⟩
  · exact ⟨"a" :: words, List.forall_mem_cons.2 ⟨ha, hwords⟩, rfl⟩
  · exact ⟨"an" :: words, List.forall_mem_cons.2 ⟨han, hwords⟩, rfl⟩
  · exact ⟨"the" :: words, List.forall_mem_cons.2 ⟨hthe, hwords⟩, rfl⟩

/-- `returns` starts with a letter in any case. -/
theorem isWordBoundary_returns {returns : Text} (h : IsInAnyCase "returns" returns) :
    IsWordBoundary before (returns ++ rest) ↔ belongsToWord before.getLast? = false := by
  cases h with
  | cons hc _ =>
    have hforms : ∀ c ∈ caseForms 'r', Unicode.isWordChar c := List.all_eq_true.1 rfl
    exact isWordBoundary_iff_of_head? (hforms _ hc) rfl

/-- The active phrase names the types that are at the place behind its words. -/
theorem instanceAt_active_iff :
    InstanceAt active before s type ↔ belongsToWord before.getLast? = false ∧
      ∃ behind, afterFolded? "returns" s = some (' ' :: behind) ∧
        type.text <+: dropLowerWords behind := by
  have hfolded (s rest : Text) : afterFolded? "returns" s = some rest ↔
      ∃ lead, IsInAnyCase "returns" lead ∧ s = lead ++ rest :=
    afterFolded?_eq_some_iff (List.all_eq_true.1 rfl)
  constructor
  · intro h
    cases h with
    | active _ returns article rest words _ hstart hreturns harticle hwords =>
      obtain ⟨words', hwords', harticles⟩ := exists_lowerWords_of_article harticle hwords
      have hs : returns ++ " " ++ article ++ words.flatMap (· ++ [' ']) ++ type.text ++ rest =
          returns ++ ' ' :: (words'.flatMap (· ++ [' ']) ++ (type.text ++ rest)) := by
        simp [← harticles]
      have hcapital : ∀ c ∈ (type.text ++ rest).head?, c.isLower = false := by
        obtain ⟨c, word, htext, hc⟩ := type.exists_text_eq_cons
        simpa [htext] using Unicode.isLower_eq_false_of_isUpper hc
      rw [hs] at hstart ⊢
      refine ⟨(isWordBoundary_returns hreturns).1 hstart, _, (hfolded _ _).2 ⟨_, hreturns, rfl⟩, ?_⟩
      rw [dropLowerWords_append hwords' hcapital]
      exact List.prefix_append _ _
  · rintro ⟨hprevious, behind, hafter, rest, hrest⟩
    obtain ⟨returns, hreturns, rfl⟩ := (hfolded _ _).1 hafter
    obtain ⟨words, hwords, hbehind⟩ := exists_lowerWords_append behind
    have hstart : IsWordBoundary before (returns ++ ' ' :: behind) :=
      (isWordBoundary_returns hreturns).2 hprevious
    rw [hbehind, ← hrest] at hstart ⊢
    have hinstance := InstanceAt.active before returns [] rest words type
      (by simpa using hstart) hreturns (by simp) hwords
    simpa using hinstance

/-! ### The longest type of a phrase -/

/-- A type is the longest that a phrase names at a place when every other one there has no more
words of arrays and is not longer. -/
def IsLongestAt (kind : PhraseKind) (before s : Text) (type : NamedType) : Prop :=
  InstanceAt kind before s type ∧ ∀ other, InstanceAt kind before s other →
    other.dimensions ≤ type.dimensions ∧ other.text.length ≤ type.text.length

/-- What a phrase tells at a place. -/
def phrase : PhraseKind → Phrase
  | form => formPhrase
  | as => asPhrase
  | passive => passivePhrase
  | active => activePhrase

theorem map_phrase_inOrder : inOrder.map phrase = phrases := rfl

theorem mem_inOrder (kind : PhraseKind) : kind ∈ inOrder := by
  cases kind <;> decide

/-- Where a phrase names one text only, every type that it names there is the longest. -/
theorem isLongestAt_of_forall_text_eq (h : InstanceAt kind before s type)
    (hall : ∀ other, InstanceAt kind before s other → other.text = type.text) :
    IsLongestAt kind before s type := by
  refine ⟨h, fun other hother ↦ ?_⟩
  have htext := hall other hother
  have hspaces := congrArg (List.count ' ') htext
  rw [NamedType.count_space_text, NamedType.count_space_text] at hspaces
  exact ⟨by omega, Nat.le_of_eq (congrArg List.length htext)⟩

/-- A phrase that tells every type it names tells the longest. -/
theorem phrase_eq_some_iff_of_instance (h : ∀ result, kind.phrase before.getLast? s = some result ↔
      ∃ type : NamedType, type.text = result ∧ InstanceAt kind before s type) :
    kind.phrase before.getLast? s = some result ↔
      ∃ type : NamedType, type.text = result ∧ IsLongestAt kind before s type := by
  constructor
  · intro hresult
    obtain ⟨type, rfl, htype⟩ := (h result).1 hresult
    refine ⟨type, rfl, isLongestAt_of_forall_text_eq htype fun other hother ↦ ?_⟩
    exact Option.some.inj (((h _).2 ⟨other, rfl, hother⟩).symm.trans hresult)
  · rintro ⟨type, rfl, htype, -⟩
    exact (h _).2 ⟨type, rfl, htype⟩

/-- What the active phrase tells is the longest type. -/
theorem exists_longest_of_activePhrase (h : activePhrase before.getLast? s = some result) :
    ∃ type : NamedType, type.text = result ∧ IsLongestAt active before s type := by
  simp only [activePhrase, Option.bind_eq_bind, Option.bind_eq_some_iff, Option.guard_eq_some',
    Bool.not_eq_true'] at h
  obtain ⟨_, hprevious, rest, hreturns, behind, hspace, ⟨read, s'⟩, hread, h⟩ := h
  obtain rfl : read = result := Option.some.inj h
  obtain rfl : rest = _ := after?_eq_some_iff.1 hspace
  obtain ⟨type, rfl, hs, hlongest⟩ := exists_longest_of_readType? hread
  refine ⟨type, rfl, ?_, fun other hother ↦ ?_⟩
  · exact instanceAt_active_iff.2 ⟨hprevious, behind, hreturns, s', hs.symm⟩
  · obtain ⟨-, behind', hreturns', hprefix⟩ := instanceAt_active_iff.1 hother
    obtain rfl := (List.cons.inj (Option.some.inj (hreturns.symm.trans hreturns'))).2
    exact hlongest other hprefix

/-- The active phrase tells a type where it names one. -/
theorem isSome_activePhrase (h : InstanceAt active before s type) :
    (activePhrase before.getLast? s).isSome := by
  obtain ⟨hprevious, behind, hreturns, rest, hrest⟩ := instanceAt_active_iff.1 h
  obtain ⟨⟨read, s'⟩, hread⟩ := Option.isSome_iff_exists.1 (hrest ▸ isSome_readType? type rest)
  refine Option.isSome_iff_exists.2 ⟨read, ?_⟩
  simp only [activePhrase, Option.bind_eq_bind, Option.bind_eq_some_iff, Option.guard_eq_some',
    Bool.not_eq_true']
  exact ⟨(), hprevious, _, hreturns, behind, after?_eq_some_iff.2 rfl, _, hread, rfl⟩

/-- The longest types that the active phrase names at one place have the same text. -/
theorem text_eq_of_isLongestAt_active {type' : NamedType} (h : IsLongestAt active before s type)
    (h' : IsLongestAt active before s type') : type.text = type'.text := by
  obtain ⟨-, behind, hreturns, hprefix⟩ := instanceAt_active_iff.1 h.1
  obtain ⟨-, behind', hreturns', hprefix'⟩ := instanceAt_active_iff.1 h'.1
  obtain rfl := (List.cons.inj (Option.some.inj (hreturns.symm.trans hreturns'))).2
  have hlength := Nat.le_antisymm (h'.2 type h.1).2 (h.2 type' h'.1).2
  have hle := List.prefix_of_prefix_length_le hprefix hprefix' (Nat.le_of_eq hlength)
  exact hle.eq_of_length hlength

theorem activePhrase_eq_some_iff :
    activePhrase before.getLast? s = some result ↔
      ∃ type : NamedType, type.text = result ∧ IsLongestAt active before s type := by
  refine ⟨exists_longest_of_activePhrase, ?_⟩
  rintro ⟨type, rfl, htype⟩
  obtain ⟨told, htold⟩ := Option.isSome_iff_exists.1 (isSome_activePhrase htype.1)
  obtain ⟨type', rfl, htype'⟩ := exists_longest_of_activePhrase htold
  rw [htold, text_eq_of_isLongestAt_active htype' htype]

/-- At a place a phrase tells the longest type that it names there. -/
theorem phrase_eq_some_iff (kind : PhraseKind) :
    kind.phrase before.getLast? s = some result ↔
      ∃ type : NamedType, type.text = result ∧ IsLongestAt kind before s type := by
  cases kind with
  | form => exact phrase_eq_some_iff_of_instance fun _ ↦ formPhrase_eq_some_iff before.getLast?
  | as => exact phrase_eq_some_iff_of_instance fun _ ↦ asPhrase_eq_some_iff
  | passive =>
    exact phrase_eq_some_iff_of_instance fun _ ↦ passivePhrase_eq_some_iff before.getLast?
  | active => exact activePhrase_eq_some_iff

/-- A phrase tells a type wherever it names one. -/
theorem isSome_phrase (h : InstanceAt kind before s type) :
    (kind.phrase before.getLast? s).isSome := by
  cases kind with
  | form =>
    exact Option.isSome_of_eq_some ((formPhrase_eq_some_iff before.getLast?).2 ⟨type, rfl, h⟩)
  | as => exact Option.isSome_of_eq_some (asPhrase_eq_some_iff.2 ⟨type, rfl, h⟩)
  | passive =>
    exact Option.isSome_of_eq_some ((passivePhrase_eq_some_iff before.getLast?).2 ⟨type, rfl, h⟩)
  | active => exact isSome_activePhrase h

/-- At a place a phrase tells nothing exactly when it names no type there. -/
theorem phrase_eq_none_iff :
    kind.phrase before.getLast? s = none ↔ ∀ type, ¬ InstanceAt kind before s type := by
  constructor
  · intro hnone type htype
    simpa [hnone] using isSome_phrase htype
  · intro hall
    refine Option.eq_none_iff_forall_ne_some.2 fun result hresult ↦ ?_
    obtain ⟨type, -, htype, -⟩ := (phrase_eq_some_iff kind).1 hresult
    exact hall type htype

end PhraseKind

end ApiReference.Schema
