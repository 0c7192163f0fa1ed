import ApiReference.Proofs.NarrowedExtraction
import ApiReference.Proofs.Page.RecordNotices

/-!
# The notices about an extraction

No record disappears without a notice. Every record that an extraction chooses is reported as
dropped, or it is a definition that the extraction gives, or it is a function that is left out. The
notices are those about the chosen records in their order, and at the end one about the number of
definitions.

## Main definitions

* `Selection.leftOut`: how many functions are left out.

## Main results

* `countP_isDrop_add_length`: a record is dropped with a notice or is a definition.
* `extract_accounts_for_records`: what becomes of the chosen records, and what is reported.
-/

namespace ApiReference

open Log Page Schema

/-- The number of definitions among the chosen records that are left out, since they are functions
and functions are not wanted. -/
def Selection.leftOut (selection : Selection) (chosen : List Record) : Nat :=
  (chosen.filterMap Record.definition?).countP fun definition ↦
    !selection.includeFunctions && definition.kind = .function

variable {selection : Selection} {chosen : List Record} {markup : Text}

/-- A record is dropped with a notice or is a definition. -/
theorem countP_isDrop_add_length (chosen : List Record) :
    (chosen.flatMap Record.notices).countP (·.IsDrop) +
      (chosen.filterMap Record.definition?).length = chosen.length := by
  induction chosen with
  | nil => rfl
  | cons record chosen ih =>
    rw [List.flatMap_cons, List.countP_append, Record.countP_isDrop_notices, List.length_cons]
    cases hdefinition : record.definition? with
    | none =>
      rw [List.filterMap_cons_none hdefinition, if_pos rfl]
      omega
    | some definition =>
      rw [List.filterMap_cons_some hdefinition, if_neg (by simp), List.length_cons]
      omega

/-- A definition is wanted or left out. -/
theorem Selection.length_wanted_add_leftOut (selection : Selection) (chosen : List Record) :
    (selection.wanted chosen).length + selection.leftOut chosen =
      (chosen.filterMap Record.definition?).length := by
  rw [leftOut, wanted]
  generalize chosen.filterMap Record.definition? = definitions
  cases selection.includeFunctions with
  | true => simp
  | false =>
    have hkind : ∀ definition : Definition,
        decide (definition.kind = .function) = decide ¬ definition.kind = .type := by
      intro definition
      cases definition.kind <;> rfl
    have hlength := List.length_eq_countP_add_countP (l := definitions)
      fun definition ↦ decide (definition.kind = .type)
    simp only [decide_eq_true_eq] at hlength
    simp only [Bool.false_eq_true, if_false, Bool.not_false, Bool.true_and, hkind]
    rw [← List.countP_eq_length_filter, hlength]

/-- What is reported about a record is of no level that is used for the page as a whole. -/
theorem Page.Record.level_ne_info {record : Record} {notice : Notice}
    (h : notice ∈ record.notices) : notice.level ≠ .info := by
  cases Record.mem_notices_iff.1 h <;> exact Level.noConfusion

/-- An extraction accounts for all records that it chooses. Each of them is reported as dropped, is
a definition that is given, or is a function that is left out. It is reported as dropped at most
once, and once exactly when it is no definition, and the other notices about it are those that its
texts call for, each of them once. The notices stand in the order of the records, and the last one,
which is the only one about the page as a whole, says how many definitions are given. -/
theorem extract_accounts_for_records {result : Extraction}
    (h : extract selection markup = .ok result) :
    ∃ chosen, selection.Chooses (records markup) chosen ∧
      result.notices.countP (·.IsDrop) + result.definitions.length + selection.leftOut chosen =
        chosen.length ∧
      (∀ record ∈ chosen,
        record.notices.countP (·.IsDrop) = (if record.definition? = none then 1 else 0) ∧
        record.notices.Nodup ∧ ∀ notice, notice ∈ record.notices ↔ record.Reports notice) ∧
      result.notices =
        chosen.flatMap Record.notices ++ [.extracted result.definitions.length] ∧
      result.notices.countP (·.level = .info) = 1 := by
  obtain ⟨chosen, hchosen, -⟩ := Selection.exists_chooses_of_extract h
  cases (Selection.extract_of_chooses hchosen).symm.trans h
  have hlength : (Definition.sorted (selection.wanted chosen)).length =
      (selection.wanted chosen).length := (Definition.sorted_perm _).length_eq
  refine ⟨chosen, hchosen, ?_, fun record _ ↦ ⟨Record.countP_isDrop_notices record,
    Record.nodup_notices record, fun _ ↦ Record.mem_notices_iff⟩, ?_, ?_⟩
  · have hdrop : [Notice.extracted (selection.wanted chosen).length].countP (·.IsDrop) = 0 := by
      simp [Notice.isDrop_iff]
    have hrecords := countP_isDrop_add_length chosen
    have hdefinitions := selection.length_wanted_add_leftOut chosen
    dsimp only
    rw [List.countP_append, hdrop, hlength]
    omega
  · rw [hlength]
  · have hnone : (chosen.flatMap Record.notices).countP (·.level = .info) = 0 := by
      refine List.countP_eq_zero.2 fun notice hnotice ↦ ?_
      obtain ⟨record, -, hnotice⟩ := List.mem_flatMap.1 hnotice
      simpa using Record.level_ne_info hnotice
    rw [List.countP_append, hnone]
    rfl

/-- A page with a record that comes too early, one without a table, a type with an unusual title, an
incomplete row and a text behind its table, a function, and a record with an empty table. -/
def pageOfDroppedRecords : Text :=
  ("<h4>Old</h4><h4>News</h4><p>None.</p>" : Text) ++
  "<h4>chat</h4><table><th>Field</th><th>Type</th><th>Description</th>" ++
    "<td>id</td><td>Integer</td><td></td><td>title</td></table><p>Note.</p>" ++
  "<h4>getMe</h4><table><th>Parameter</th><th>Type</th><th>Required</th><th>Description</th>" ++
    "<td>id</td><td>Integer</td><td>Yes</td><td></td></table>" ++
  "<h4>Empty</h4><table><th>Field</th><th>Type</th><th>Description</th><td>id</td></table>"

theorem records_pageOfDroppedRecords :
    records pageOfDroppedRecords =
      [⟨"Old", [], []⟩, ⟨"News", ["None."], []⟩,
        ⟨"chat", ["Field", "Type", "Description", "id", "Integer", "", "title"], ["Note."]⟩,
        ⟨"getMe", ["Parameter", "Type", "Required", "Description", "id", "Integer", "Yes", ""], []⟩,
        ⟨"Empty", ["Field", "Type", "Description", "id"], []⟩] := by
  decide +kernel

/-- Of four records two are dropped, one is given and one is left out. -/
theorem extract_pageOfDroppedRecords :
    ∃ result chosen,
      extract ⟨some "News", false⟩ pageOfDroppedRecords = .ok result ∧
      Selection.Chooses ⟨some "News", false⟩ (records pageOfDroppedRecords) chosen ∧
      result.notices.countP (·.IsDrop) + result.definitions.length +
        Selection.leftOut ⟨some "News", false⟩ chosen = chosen.length ∧
      chosen.length = 4 ∧ result.definitions.length = 1 ∧
      result.notices = [.noTable "News", .incompleteRow "chat" 1,
        .unusualCapitalization "chat" .type, .textBehindTable "chat" ["Note."],
        .incompleteRow "Empty" 1, .emptyTable "Empty", .extracted 1] := by
  let news : Record := ⟨"News", ["None."], []⟩
  let behind : List Record :=
    [⟨"chat", ["Field", "Type", "Description", "id", "Integer", "", "title"], ["Note."]⟩,
      ⟨"getMe", ["Parameter", "Type", "Required", "Description", "id", "Integer", "Yes", ""], []⟩,
      ⟨"Empty", ["Field", "Type", "Description", "id"], []⟩]
  have hchooses : Selection.Chooses ⟨some "News", false⟩ (records pageOfDroppedRecords)
      (news :: behind) := by
    rw [records_pageOfDroppedRecords]
    exact .from false [⟨"Old", [], []⟩] news behind (by decide)
  have hresult := Selection.extract_of_chooses hchooses
  obtain ⟨chosen, hchosen, hcount, -, hnotices, -⟩ := extract_accounts_for_records hresult
  have heq : chosen = news :: behind := Except.ok.inj
    ((Selection.records?_of_chooses hchosen).symm.trans (Selection.records?_of_chooses hchooses))
  have hlength :
      (Definition.sorted (Selection.wanted ⟨some "News", false⟩ (news :: behind))).length = 1 :=
    (Definition.sorted_perm _).length_eq.trans (by decide)
  subst heq
  refine ⟨_, _, hresult, hchosen, hcount, rfl, hlength, ?_⟩
  rw [hnotices, hlength]
  decide

end ApiReference
