import ApiReference.Proofs.Schema.ResultSearch
import Mathlib.Data.List.DropRight
import Mathlib.Data.List.Infix

/-!
# Results that are whole words

The result that a description names should be a word of the description and no piece of a longer
one. Three of the four phrases have a space before the type, and no phrase leaves off where the word
of the type goes on. The passive phrase starts with its type, wherever that is, and a type can start
inside a word: `fooBar is returned` names `Bar`. So a result is a whole word unless the passive
phrase names the end of a longer word. That word has no capital before the result unless the result
is an array, because the phrase would have named the type that starts there.

## Main definitions

* `StandsAlone`: a word has an occurrence with neither a letter nor a digit beside it.
* `CutsWord`: a description names the end of a longer word as the result.

## Main results

* `PhraseKind.standsAlone_of_form`, `PhraseKind.standsAlone_of_as`,
  `PhraseKind.standsAlone_of_active`: the types of three phrases stand alone.
* `PhraseKind.Names.standsAlone_or_exists_lead`: those of the passive phrase do, or they end a word.
* `standsAlone_or_cutsWord`: the results that stand alone.
-/

namespace ApiReference.Schema

open Text

/-! ### Words that stand alone -/

/-- A word has an occurrence in a text with neither a letter nor a digit of ASCII right before it or
right behind it. -/
def StandsAlone (word s : Text) : Prop :=
  ∃ before behind, s = before ++ (word ++ behind) ∧
    (∀ c ∈ before.getLast?, c.isAlphanum = false) ∧ ∀ c ∈ behind.head?, c.isAlphanum = false

theorem standsAlone_iff_exists_mem_inits {word s : Text} :
    StandsAlone word s ↔ ∃ before ∈ s.inits, word <+: s.drop before.length ∧
      before.getLast?.all (!Char.isAlphanum ·) ∧
      (s.drop (before.length + word.length)).head?.all (!Char.isAlphanum ·) := by
  simp only [all_not_iff, List.mem_inits]
  constructor
  · rintro ⟨before, behind, rfl, hbefore, hbehind⟩
    refine ⟨before, List.prefix_append _ _, ?_, hbefore, ?_⟩
    · rw [List.drop_left]
      exact List.prefix_append word behind
    · rwa [← List.drop_drop, List.drop_left, List.drop_left]
  · rintro ⟨before, ⟨t, rfl⟩, hword, hbefore, hbehind⟩
    rw [List.drop_left] at hword
    obtain ⟨behind, rfl⟩ := hword
    rw [← List.drop_drop, List.drop_left, List.drop_left] at hbehind
    exact ⟨before, behind, rfl, hbefore, hbehind⟩

instance (word s : Text) : Decidable (StandsAlone word s) :=
  decidable_of_iff _ standsAlone_iff_exists_mem_inits.symm

variable {before behind s description result : Text} {type : NamedType}

/-- A word between a space and a character that is neither a letter nor a digit stands alone. -/
theorem standsAlone_behind_space (before word : Text) {lead : Text}
    (hlead : lead.getLast? = some ' ') (hbehind : ∀ c ∈ behind.head?, c.isAlphanum = false) :
    StandsAlone word (before ++ (lead ++ (word ++ behind))) := by
  refine ⟨before ++ lead, behind, by simp, fun c hc ↦ ?_, hbehind⟩
  rw [List.getLast?_append, hlead] at hc
  obtain rfl : ' ' = c := Option.some.inj hc
  decide

/-! ### Longer types -/

theorem IsCapitalized.append {word rest : Text} (h : IsCapitalized word)
    (hrest : ∀ c ∈ rest, c.isAlphanum) : IsCapitalized (word ++ rest) := by
  obtain ⟨c, word, rfl, hc, hword⟩ := h
  exact ⟨c, word ++ rest, rfl, hc, List.forall_mem_append.2 ⟨hword, hrest⟩⟩

/-- A type goes on with a letter or a digit. -/
theorem NamedType.exists_text_concat (type : NamedType) {c : Char} (hc : c.isAlphanum) :
    ∃ longer : NamedType, longer.text = type.text ++ [c] :=
  ⟨⟨type.dimensions, type.word ++ [c], type.isCapitalized.append (by simpa using hc)⟩,
    by simp [text]⟩

/-- A type that is no array goes on backwards up to a capital. -/
theorem NamedType.exists_text_eq_cons_append (htype : type.dimensions = 0) {c : Char} {lead : Text}
    (hc : c.isUpper) (hlead : ∀ d ∈ lead, d.isAlphanum) :
    ∃ longer : NamedType, longer.text = c :: lead ++ type.text := by
  have hword : IsCapitalized (c :: lead ++ type.word) :=
    IsCapitalized.append ⟨c, lead, rfl, hc, hlead⟩ type.isCapitalized.all_isAlphanum
  exact ⟨⟨0, c :: lead ++ type.word, hword⟩, by simp [text, htype]⟩

namespace PhraseKind

/-! ### Phrases with a space before the type -/

theorem standsAlone_of_form (h : InstanceAt form before s type) :
    StandsAlone type.text (before ++ s) := by
  cases h with
  | form _ article behind _ harticle =>
    have hlead : ("in form of " ++ article : Text).getLast? = some ' ' := by
      simp only [List.mem_cons, List.not_mem_nil, or_false] at harticle
      rcases harticle with rfl | rfl <;> rfl
    have hbehind : ∀ c ∈ (" object" ++ behind : Text).head?, c.isAlphanum = false := by simp
    simpa using standsAlone_behind_space before type.text hlead hbehind

theorem standsAlone_of_as (h : InstanceAt as before s type) :
    StandsAlone type.text (before ++ s) := by
  cases h with
  | as _ article noun behind _ _ harticle hnoun _ =>
    simp only [List.mem_cons, List.not_mem_nil, or_false] at harticle hnoun
    have hlead : ("as " ++ article : Text).getLast? = some ' ' := by
      rcases harticle with rfl | rfl | rfl <;> rfl
    have hbehind : ∀ c ∈ (noun ++ behind : Text).head?, c.isAlphanum = false := by
      rcases hnoun with rfl | rfl <;> simp
    simpa using standsAlone_behind_space before type.text hlead hbehind

/-- The active phrase has a space before the type, and the longest type leaves no letter or digit
behind it. -/
theorem standsAlone_of_active (h : IsLongestAt active before s type) :
    StandsAlone type.text (before ++ s) := by
  obtain ⟨hprevious, rest, hreturns, behind, hbehind⟩ := instanceAt_active_iff.1 h.1
  obtain ⟨returns, -, rfl⟩ := (afterFolded?_eq_some_iff (List.all_eq_true.1 rfl)).1 hreturns
  obtain ⟨words, -, hwords⟩ := exists_lowerWords_append rest
  obtain ⟨lead, hlead⟩ : ∃ lead, ' ' :: words.flatMap (· ++ [' ']) = lead ++ [' '] := by
    rcases List.eq_nil_or_concat' words with rfl | ⟨words, word, rfl⟩
    · exact ⟨[], rfl⟩
    · exact ⟨' ' :: (words.flatMap (· ++ [' ']) ++ word), by simp⟩
  have hstop : ∀ c ∈ behind.head?, c.isAlphanum = false := by
    intro c hc
    refine Bool.eq_false_iff.2 fun halphanum ↦ ?_
    obtain ⟨longer, hlonger⟩ := type.exists_text_concat halphanum
    obtain ⟨behind, rfl⟩ := List.head?_eq_some_iff.1 hc
    have hprefix : longer.text <+: dropLowerWords rest := ⟨behind, by rw [hlonger, ← hbehind]; simp⟩
    have hle := (h.2 longer (instanceAt_active_iff.2 ⟨hprevious, rest, hreturns, hprefix⟩)).2
    rw [hlonger, List.length_append, List.length_singleton] at hle
    omega
  rw [hwords, ← hbehind, ← List.cons_append, hlead]
  simpa using standsAlone_behind_space (before ++ returns) type.text List.getLast?_concat hstop

/-! ### The passive phrase -/

/-- Neither a letter nor a digit is behind the type of a passive phrase. -/
theorem exists_behind_of_passive (h : InstanceAt passive before s type) :
    ∃ behind, s = type.text ++ behind ∧ (∀ c ∈ behind.head?, c.isAlphanum = false) ∧
      ∀ (before' : Text) (type' : NamedType),
        InstanceAt passive before' (type'.text ++ behind) type' := by
  cases h with
  | passive _ noun verb behind _ hnoun hverb =>
    refine ⟨noun ++ (verb ++ behind), by simp, ?_, fun before' type' ↦ ?_⟩
    · simp only [List.mem_cons, List.not_mem_nil, or_false] at hnoun hverb
      rcases hnoun with rfl | rfl | rfl <;> rcases hverb with rfl | rfl <;> simp
    · simpa using InstanceAt.passive before' noun verb behind type' hnoun hverb

/-- The type of a passive phrase stands alone, or it ends a word. This word has no capital before
the type unless the type is an array. -/
theorem Names.standsAlone_or_exists_lead (h : passive.Names description before behind type) :
    StandsAlone type.text description ∨
      ∃ start lead, before = start ++ lead ∧ lead ≠ [] ∧ (∀ c ∈ lead, c.isAlphanum) ∧
        (∀ c ∈ start.getLast?, c.isAlphanum = false) ∧
        (type.dimensions = 0 → ∀ c ∈ lead, c.isUpper = false) := by
  obtain ⟨rest, rfl, hrest, hinstance⟩ := exists_behind_of_passive h.longest.1
  by_cases hbefore : ∀ c ∈ before.getLast?, c.isAlphanum = false
  · exact .inl ⟨before, rest, h.place, hbefore, hrest⟩
  refine .inr ⟨before.rdropWhile Char.isAlphanum, before.rtakeWhile Char.isAlphanum,
    List.rdropWhile_append_rtakeWhile.symm, fun hnil ↦ hbefore fun c hc ↦ ?_,
    fun c hc ↦ List.mem_rtakeWhile_imp hc, fun c hc ↦ ?_, fun hdimensions c hc ↦ ?_⟩
  · obtain ⟨hne, rfl⟩ := List.mem_getLast?_eq_getLast hc
    exact Bool.eq_false_iff.2 (List.rtakeWhile_eq_nil_iff.1 hnil hne)
  · obtain ⟨hne, rfl⟩ := List.mem_getLast?_eq_getLast hc
    exact Bool.eq_false_iff.2 (List.rdropWhile_last_not _ _ hne)
  · refine Bool.eq_false_iff.2 fun hcapital ↦ ?_
    -- The phrase would start at the capital.
    obtain ⟨more, lead, hlead⟩ := List.append_of_mem hc
    have halphanum : ∀ d ∈ lead, d.isAlphanum := fun d hd ↦
      List.mem_rtakeWhile_imp (hlead ▸ List.mem_append_right more (List.mem_cons_of_mem c hd))
    obtain ⟨longer, hlonger⟩ :=
      NamedType.exists_text_eq_cons_append hdimensions hcapital halphanum
    have hbefore : before = before.rdropWhile Char.isAlphanum ++ more ++ c :: lead := by
      rw [List.append_assoc, ← hlead, List.rdropWhile_append_rtakeWhile]
    have hplace : description =
        before.rdropWhile Char.isAlphanum ++ more ++ (longer.text ++ rest) := by
      rw [h.place, hlonger]
      conv_lhs => rw [hbefore]
      simp
    have hle := h.leftmost _ _ longer hplace (hinstance _ longer)
    have hlength := congrArg List.length hbefore
    rw [List.length_append, List.length_cons] at hlength
    omega

/-- The types of the other phrases stand alone. -/
theorem Names.standsAlone {kind : PhraseKind} (h : kind.Names description before s type)
    (hkind : kind ≠ passive) : StandsAlone type.text description := by
  rw [h.place]
  cases kind with
  | form => exact standsAlone_of_form h.longest.1
  | as => exact standsAlone_of_as h.longest.1
  | passive => exact absurd rfl hkind
  | active => exact standsAlone_of_active h.longest

end PhraseKind

/-! ### Results -/

/-- A description names the end of a longer word as the result: the first phrase that occurs is the
passive one, and the word starts with letters and digits before the type. It has no capital there
unless the type is an array. -/
def CutsWord (description result : Text) : Prop :=
  ¬ PhraseKind.form.Occurs description ∧ ¬ PhraseKind.as.Occurs description ∧
    ∃ start lead behind type, PhraseKind.passive.Names description (start ++ lead) behind type ∧
      type.text = result ∧ lead ≠ [] ∧ (∀ c ∈ lead, c.isAlphanum) ∧
      (∀ c ∈ start.getLast?, c.isAlphanum = false) ∧
      (type.dimensions = 0 → ∀ c ∈ lead, c.isUpper = false)

/-- The phrases are searched for one after the other. -/
theorem resultType?_eq_or (description : Text) :
    resultType? description =
      (PhraseKind.form.phrase.first? none description).or
        ((PhraseKind.as.phrase.first? none description).or
          ((PhraseKind.passive.phrase.first? none description).or
            (PhraseKind.active.phrase.first? none description))) := by
  simp only [resultType?, ← PhraseKind.map_phrase_inOrder, PhraseKind.inOrder, List.map_cons,
    List.map_nil, List.findSome?_cons, List.findSome?_nil]
  cases PhraseKind.form.phrase.first? none description <;>
    cases PhraseKind.as.phrase.first? none description <;>
    cases PhraseKind.passive.phrase.first? none description <;>
    cases PhraseKind.active.phrase.first? none description <;> rfl

/-- The result that a description names is a whole word, unless it is the end of a longer word that
the passive phrase names. The end of such a word is always the result. -/
theorem standsAlone_or_cutsWord (description result : Text) :
    (resultType? description = some result →
      StandsAlone result description ∨ CutsWord description result) ∧
    (CutsWord description result → resultType? description = some result) := by
  rw [resultType?_eq_or]
  constructor
  · intro h
    rcases Option.or_eq_some_iff.1 h with hform | ⟨hform, h⟩
    · obtain ⟨_, _, type, hnames, rfl⟩ := PhraseKind.first?_eq_some_iff.1 hform
      exact .inl (hnames.standsAlone (by decide))
    rcases Option.or_eq_some_iff.1 h with has | ⟨has, h⟩
    · obtain ⟨_, _, type, hnames, rfl⟩ := PhraseKind.first?_eq_some_iff.1 has
      exact .inl (hnames.standsAlone (by decide))
    rcases Option.or_eq_some_iff.1 h with hpassive | ⟨-, hactive⟩
    · obtain ⟨before, s, type, hnames, rfl⟩ := PhraseKind.first?_eq_some_iff.1 hpassive
      refine hnames.standsAlone_or_exists_lead.imp_right ?_
      rintro ⟨start, lead, rfl, hlead⟩
      exact ⟨PhraseKind.first?_eq_none_iff.1 hform, PhraseKind.first?_eq_none_iff.1 has, start,
        lead, s, type, hnames, rfl, hlead⟩
    · obtain ⟨_, _, type, hnames, rfl⟩ := PhraseKind.first?_eq_some_iff.1 hactive
      exact .inl (hnames.standsAlone (by decide))
  · rintro ⟨hform, has, start, lead, behind, type, hnames, rfl, -⟩
    have hpassive := PhraseKind.first?_eq_some_iff.2 ⟨start ++ lead, behind, type, hnames, rfl⟩
    rw [PhraseKind.first?_eq_none_iff.2 hform, PhraseKind.first?_eq_none_iff.2 has, hpassive]
    rfl

/-- The result is cut out of an identifier with a digit. -/
theorem cutsWord_of_identifier :
    CutsWord "list1Bar objects are returned" "Bar" ∧
      resultType? "list1Bar objects are returned" = some ("Bar" : Text) := by
  have hresult : resultType? "list1Bar objects are returned" = some ("Bar" : Text) := by
    decide +kernel
  have hcuts : CutsWord "list1Bar objects are returned" "Bar" :=
    ((standsAlone_or_cutsWord _ _).1 hresult).resolve_left (by decide +kernel)
  exact ⟨hcuts, (standsAlone_or_cutsWord _ _).2 hcuts⟩

/-- The result is the end of a name in camel case, and it is nowhere a word by itself. -/
theorem not_standsAlone_of_camelCase :
    resultType? "fooBar is returned" = some ("Bar" : Text) ∧
      ¬ StandsAlone "Bar" "fooBar is returned" := by
  decide +kernel

end ApiReference.Schema
