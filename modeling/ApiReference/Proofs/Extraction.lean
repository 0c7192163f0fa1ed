import ApiReference.Extraction
import ApiReference.Proofs.Page.TableHeader
import ApiReference.Proofs.Schema.StableOrder
import Mathlib.Data.List.TakeWhile

/-!
# What is extracted from a page

An extraction fails only when no record has the title that it is to start at. Otherwise it gives the
definitions of the chosen records, without the functions when these are not wanted, in the stable
order of their keys. There is one definition for every chosen record that has a table with a
complete row.

## Main definitions

* `Selection.Chooses`: which records are chosen.
* `Selection.wanted`: the definitions that are to be extracted, in the order of the records.
* `Selection.Counts`: which records count for a selection.

## Main results

* `Selection.extract_of_missing`, `Selection.extract_of_chooses`: how an extraction fails and what
  it gives.
* `extract_eq_stable_order`: the two put together.
-/

namespace ApiReference

open Page Schema

namespace Selection

variable {selection : Selection} {records chosen : List Record} {markup : Text}

/-- The records that are chosen: all of them, or the first with the title to start at and those
behind it. -/
inductive Chooses : Selection → List Record → List Record → Prop
  | all (includeFunctions : Bool) (records : List Record) :
      Chooses ⟨none, includeFunctions⟩ records records
  | from (includeFunctions : Bool) (before : List Record) (first : Record) (behind : List Record)
      (h : ∀ record ∈ before, record.title ≠ first.title) :
      Chooses ⟨some first.title, includeFunctions⟩ (before ++ first :: behind) (first :: behind)

/-- The definitions of the chosen records, in the order of the records. -/
def wanted (selection : Selection) (chosen : List Record) : List Definition :=
  if selection.includeFunctions then chosen.filterMap Record.definition?
  else (chosen.filterMap Record.definition?).filter (·.kind = .type)

/-- A record counts when it has a table with a row, which has to be one of a type when functions are
not wanted. -/
def Counts (selection : Selection) (record : Record) : Prop :=
  record.HasRows .type ∨ (selection.includeFunctions = true ∧ record.HasRows .function)

instance (selection : Selection) (record : Record) : Decidable (selection.Counts record) :=
  inferInstanceAs (Decidable (_ ∨ _))

/-! ### The chosen records -/

theorem records?_of_chooses (h : selection.Chooses records chosen) :
    selection.records? records = .ok chosen := by
  cases h with
  | all => rfl
  | «from» includeFunctions before first behind hbefore =>
    have hdrop : (before ++ first :: behind).dropWhile (·.title != first.title) =
        first :: behind := by
      rw [List.dropWhile_append_of_pos fun record hrecord ↦ bne_iff_ne.2 (hbefore record hrecord),
        List.dropWhile_cons_of_neg (by simp)]
    simp only [records?, hdrop]

theorem records?_of_missing {title : Text} (hstart : selection.startAt = some title)
    (h : ∀ record ∈ records, record.title ≠ title) :
    selection.records? records = .error (.headingNotFound title) := by
  have hdrop : records.dropWhile (·.title != title) = [] :=
    List.dropWhile_eq_nil_iff.2 fun record hrecord ↦ bne_iff_ne.2 (h record hrecord)
  simp only [records?, hstart, hdrop]

/-- Records are chosen unless the title to start at is missing. -/
theorem exists_chooses
    (h : ∀ title, selection.startAt = some title → ∃ record ∈ records, record.title = title) :
    ∃ chosen, selection.Chooses records chosen := by
  obtain ⟨_ | title, includeFunctions⟩ := selection
  · exact ⟨records, .all includeFunctions records⟩
  · obtain ⟨record, hrecord, rfl⟩ := h title rfl
    have hfound : (records.find? (·.title == record.title)).isSome :=
      List.find?_isSome.2 ⟨record, hrecord, beq_self_eq_true _⟩
    -- The first record with the title need not be the one that is known to have it.
    obtain ⟨first, hfirst⟩ := Option.isSome_iff_exists.1 hfound
    obtain ⟨htitle, before, behind, rfl, hbefore⟩ := List.find?_eq_some_iff_append.1 hfirst
    rw [beq_iff_eq] at htitle
    refine ⟨first :: behind, ?_⟩
    rw [← htitle] at hbefore ⊢
    exact .from includeFunctions before first behind fun earlier hearlier ↦ by
      simpa using hbefore earlier hearlier

/-! ### The wanted definitions -/

theorem definitions_eq_wanted : selection.definitions chosen = selection.wanted chosen := by
  have hadmits : ∀ definition : Definition, selection.admits definition =
      (selection.includeFunctions || decide (definition.kind = .type)) := by
    intro definition
    rw [admits]
    cases definition.kind <;> rfl
  rw [definitions, wanted, List.filter_congr fun definition _ ↦ hadmits definition]
  cases selection.includeFunctions <;> simp

/-- There is one wanted definition for every record that counts. -/
theorem length_wanted : (selection.wanted chosen).length = chosen.countP (selection.Counts ·) := by
  rw [wanted]
  split
  · rename_i hfunctions
    rw [List.length_filterMap_eq_countP]
    refine List.countP_congr fun record _ ↦ ?_
    rw [decide_eq_true_eq, Counts, ← Record.exists_definition?_iff, ← Record.exists_definition?_iff,
      Option.isSome_iff_exists]
    constructor
    · rintro ⟨definition, hdefinition⟩
      cases hkind : definition.kind with
      | type => exact .inl ⟨definition, hdefinition, hkind⟩
      | function => exact .inr ⟨hfunctions, definition, hdefinition, hkind⟩
    · rintro (⟨definition, hdefinition, -⟩ | ⟨-, definition, hdefinition, -⟩) <;>
        exact ⟨definition, hdefinition⟩
  · rename_i hfunctions
    rw [← List.countP_eq_length_filter, List.countP_filterMap]
    refine List.countP_congr fun record _ ↦ ?_
    rw [decide_eq_true_eq, Counts, ← Record.exists_definition?_iff]
    cases record.definition? <;> simp [hfunctions]

/-! ### The extraction -/

theorem extract_of_missing {title : Text} (hstart : selection.startAt = some title)
    (h : ∀ record ∈ Page.records markup, record.title ≠ title) :
    extract selection markup = .error (.headingNotFound title) := by
  rw [extract, records?_of_missing hstart h]
  rfl

theorem extract_of_chooses (h : selection.Chooses (Page.records markup) chosen) :
    extract selection markup = .ok {
      definitions := Definition.sorted (selection.wanted chosen)
      notices :=
        chosen.flatMap Record.notices ++ [.extracted (selection.wanted chosen).length] } := by
  rw [extract, records?_of_chooses h, ← definitions_eq_wanted]
  rfl

end Selection

open Selection in
/-- An extraction that is to start at a title that no record has fails and says so. Any other gives
the one stable arrangement of the wanted definitions by their keys, which are as many as the chosen
records that count. -/
theorem extract_eq_stable_order (selection : Selection) (markup : Text) :
    (∀ title, selection.startAt = some title → (∀ record ∈ records markup, record.title ≠ title) →
      ∃ error, extract selection markup = .error error ∧
        error.message = ("heading not found: " : Text) ++ title) ∧
    ((∀ title, selection.startAt = some title → ∃ record ∈ records markup, record.title = title) →
      ∃ chosen result, selection.Chooses (records markup) chosen ∧
        extract selection markup = .ok result ∧
        (∀ arrangement, Definition.IsStablySorted (selection.wanted chosen) arrangement ↔
          arrangement = result.definitions) ∧
        result.definitions.length = chosen.countP (selection.Counts ·)) := by
  constructor
  · intro title hstart hmissing
    exact ⟨_, extract_of_missing hstart hmissing, rfl⟩
  · intro hstart
    obtain ⟨chosen, hchosen⟩ := exists_chooses hstart
    refine ⟨chosen, _, hchosen, extract_of_chooses hchosen,
      fun _ ↦ Definition.isStablySorted_iff, ?_⟩
    rw [(Definition.sorted_perm _).length_eq, length_wanted]

end ApiReference
