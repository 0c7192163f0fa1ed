import ApiReference.Proofs.Extraction

/-!
# Narrowed extractions

A selection that wants less of a page gives less of what the wider selection gives, and what both
give stands in the same order, definitions with one key included. Leaving the functions out gives
the types of the whole, and starting at a heading gives some of the whole: all of it when the page
starts with that heading.

## Main results

* `Selection.exists_chooses_of_extract`: what an extraction that succeeds gives.
* `Selection.Chooses.suffix`: the chosen records are an end of all records.
* `extract_narrowed`: what narrowing a selection does.
-/

namespace ApiReference

open Page Schema

namespace Selection

variable {selection : Selection} {records chosen : List Record} {markup : Text}

/-- An extraction that succeeds has chosen some records and gives their wanted definitions. -/
theorem exists_chooses_of_extract {result : Extraction}
    (h : extract selection markup = .ok result) :
    ∃ chosen, selection.Chooses (Page.records markup) chosen ∧
      result.definitions = Definition.sorted (selection.wanted chosen) := by
  by_cases hstart : ∀ title, selection.startAt = some title →
      ∃ record ∈ Page.records markup, record.title = title
  · obtain ⟨chosen, hchosen⟩ := exists_chooses hstart
    rw [extract_of_chooses hchosen] at h
    exact ⟨chosen, hchosen, by cases h; rfl⟩
  · push Not at hstart
    obtain ⟨title, htitle, hmissing⟩ := hstart
    rw [extract_of_missing htitle hmissing] at h
    cases h

/-- Which records are chosen does not depend on whether functions are wanted. -/
theorem Chooses.of_functions {startAt : Option Text} {includeFunctions : Bool}
    (h : Chooses ⟨startAt, includeFunctions⟩ records chosen) (includeFunctions' : Bool) :
    Chooses ⟨startAt, includeFunctions'⟩ records chosen := by
  cases h with
  | all => exact .all includeFunctions' records
  | «from» _ before first behind hbefore =>
    exact .from includeFunctions' before first behind hbefore

/-- The chosen records are an end of all records. -/
theorem Chooses.suffix (h : selection.Chooses records chosen) : chosen <:+ records := by
  cases h with
  | all => exact List.suffix_rfl
  | «from» _ before first behind => exact List.suffix_append before (first :: behind)

/-- All records are chosen when the first of them has the title to start at. -/
theorem Chooses.eq_of_head? (h : selection.Chooses records chosen)
    (hfirst : records.head?.map Record.title = selection.startAt) : chosen = records := by
  cases h with
  | all => rfl
  | «from» _ before first behind hbefore =>
    cases before with
    | nil => rfl
    | cons record before =>
      exact absurd (Option.some.inj hfirst) (hbefore record List.mem_cons_self)

/-- What is wanted of some records is wanted of more records too. -/
theorem wanted_sublist (startAt startAt' : Option Text) (includeFunctions : Bool)
    (h : chosen.Sublist records) :
    (wanted ⟨startAt, includeFunctions⟩ chosen).Sublist
      (wanted ⟨startAt', includeFunctions⟩ records) := by
  have hdefinitions := h.filterMap Record.definition?
  cases includeFunctions with
  | true => exact hdefinitions
  | false => exact hdefinitions.filter _

end Selection

open Selection

/-- An extraction of types succeeds where one with the functions does, and gives its types in their
order. An extraction that starts at a heading gives some of the definitions of the whole page in
their order, and all of them when the page starts with the heading. -/
theorem extract_narrowed (markup : Text) :
    (∀ startAt result, extract ⟨startAt, true⟩ markup = .ok result →
      ∃ types, extract ⟨startAt, false⟩ markup = .ok types ∧
        types.definitions = result.definitions.filter (·.kind = .type)) ∧
    ∀ title includeFunctions result, extract ⟨some title, includeFunctions⟩ markup = .ok result →
      ∃ whole, extract ⟨none, includeFunctions⟩ markup = .ok whole ∧
        result.definitions.Sublist whole.definitions ∧
        ((records markup).head?.map Record.title = some title →
          result.definitions = whole.definitions) := by
  constructor
  · intro startAt result hresult
    obtain ⟨chosen, hchosen, hdefinitions⟩ := exists_chooses_of_extract hresult
    refine ⟨_, extract_of_chooses (hchosen.of_functions false), ?_⟩
    rw [hdefinitions, Definition.filter_sorted]
    rfl
  · intro title includeFunctions result hresult
    obtain ⟨chosen, hchosen, hdefinitions⟩ := exists_chooses_of_extract hresult
    refine ⟨_, extract_of_chooses (.all includeFunctions _), ?_, fun hfirst ↦ ?_⟩
    · rw [hdefinitions]
      exact Definition.sorted_sublist_sorted
        (wanted_sublist _ _ includeFunctions hchosen.suffix.sublist)
    · rw [hdefinitions, hchosen.eq_of_head? hfirst]
      rfl

/-- A page with a function and a type of one key behind another type. -/
def pageOfEqualKeys : Text :=
  ("<h4>Chat</h4><table><th>Field</th><th>Type</th><th>Description</th>" : Text) ++
    "<td>id</td><td>Integer</td><td></td></table>" ++
  "<h4>getMe</h4><table><th>Parameter</th><th>Type</th><th>Required</th><th>Description</th>" ++
    "<td>id</td><td>Integer</td><td>Yes</td><td></td></table>" ++
  "<h4>Me</h4><table><th>Field</th><th>Type</th><th>Description</th>" ++
    "<td>id</td><td>Integer</td><td></td></table>"

theorem records_pageOfEqualKeys :
    records pageOfEqualKeys =
      [⟨"Chat", ["Field", "Type", "Description", "id", "Integer", ""], []⟩,
        ⟨"getMe", ["Parameter", "Type", "Required", "Description", "id", "Integer", "Yes", ""], []⟩,
        ⟨"Me", ["Field", "Type", "Description", "id", "Integer", ""], []⟩] := by
  decide +kernel

/-- What starts at the function keeps both definitions of its key in their order. -/
theorem extract_pageOfEqualKeys :
    ∃ result types whole,
      extract ⟨some "getMe", true⟩ pageOfEqualKeys = .ok result ∧
      result.definitions.map Definition.name = (["getMe", "Me"] : List Text) ∧
      extract ⟨some "getMe", false⟩ pageOfEqualKeys = .ok types ∧
      types.definitions = result.definitions.filter (·.kind = .type) ∧
      extract ⟨none, true⟩ pageOfEqualKeys = .ok whole ∧
      result.definitions.Sublist whole.definitions := by
  let chat : Record := ⟨"Chat", ["Field", "Type", "Description", "id", "Integer", ""], []⟩
  let getMe : Record := ⟨"getMe",
    ["Parameter", "Type", "Required", "Description", "id", "Integer", "Yes", ""], []⟩
  let me : Record := ⟨"Me", ["Field", "Type", "Description", "id", "Integer", ""], []⟩
  have hchooses : Chooses ⟨some "getMe", true⟩ (records pageOfEqualKeys) [getMe, me] := by
    rw [records_pageOfEqualKeys]
    exact .from true [chat] getMe [me] (by decide)
  have hresult := extract_of_chooses hchooses
  obtain ⟨types, htypes, hfilter⟩ := (extract_narrowed pageOfEqualKeys).1 _ _ hresult
  obtain ⟨whole, hwhole, hsublist, -⟩ := (extract_narrowed pageOfEqualKeys).2 _ _ _ hresult
  refine ⟨_, types, whole, hresult, ?_, htypes, hfilter, hwhole, hsublist⟩
  -- The two are in order already.
  rw [Definition.sorted, List.mergeSort_of_pairwise (by decide)]
  decide

end ApiReference
