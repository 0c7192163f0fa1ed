import ApiReference.Proofs.Page.TableHeader

/-!
# Notices about records

What is reported about a record can be told from its texts. A record that is no definition is
reported as dropped, once and for one reason, and no other record is. An incomplete row is reported
whether the record is dropped or not. The title and the suffix matter only for a record that is a
definition. No notice is given twice.

## Main definitions

* `Notice.IsDrop`: the notices that a record is dropped.
* `Record.Reports`: what is to be reported about a record.

## Main results

* `Record.notices_of_isFirstHeader`, `Record.notices_of_forall_not_headerAt`: the notices about a
  record.
* `Record.countP_isDrop_notices`: a record is reported as dropped exactly when it is no definition.
* `Record.mem_notices_iff`, `Record.nodup_notices`: what is reported about a record.
-/

namespace ApiReference.Log

/-- A notice tells that a record is dropped. -/
def Notice.IsDrop (notice : Notice) : Prop :=
  notice.level = .debug ∧ ("dropping record" : Text) <+: notice.message

instance (notice : Notice) : Decidable notice.IsDrop := inferInstanceAs (Decidable (_ ∧ _))

theorem Notice.isDrop_iff {notice : Notice} :
    notice.IsDrop ↔ ∃ title, notice = .noTable title ∨ notice = .emptyTable title := by
  constructor
  · rintro ⟨hlevel, hmessage⟩
    cases notice with
    | noTable title => exact ⟨title, .inl rfl⟩
    | emptyTable title => exact ⟨title, .inr rfl⟩
    | incompleteRow title leftover =>
      have hnot : ¬ ("dropping record" : Text) <+: ("ignoring incomplete table row" : Text) := by
        decide
      exact absurd hmessage hnot
    | _ => cases hlevel
  · have hnoTable : ("dropping record" : Text) <+:
        ("dropping record without a parameter table" : Text) := by decide
    have hemptyTable : ("dropping record" : Text) <+:
        ("dropping record with an empty parameter table" : Text) := by decide
    rintro ⟨title, rfl | rfl⟩
    · exact ⟨rfl, hnoTable⟩
    · exact ⟨rfl, hemptyTable⟩

end ApiReference.Log

namespace ApiReference.Page

open Log Schema

namespace Record

variable {record : Record} {definition : Definition} {kind : Kind} {position : Nat}
  {notice : Notice}

/-- What is to be reported about a record. -/
inductive Reports (record : Record) : Notice → Prop
  /-- There is no header among the texts. -/
  | noTable (h : ∀ kind position, ¬ HeaderAt kind record.body position) :
      Reports record (.noTable record.title)
  /-- There are too few cells for a row behind the first header. -/
  | emptyTable (kind : Kind) (position : Nat) (h : IsFirstHeader kind record.body position)
      (hcells : record.body.length < position + rowWidth kind + rowWidth kind) :
      Reports record (.emptyTable record.title)
  /-- There are some cells behind the complete rows, and too few for another one. -/
  | incompleteRow (kind : Kind) (position rows leftover : Nat)
      (h : IsFirstHeader kind record.body position)
      (hcells : record.body.length =
        position + rowWidth kind + (rows * rowWidth kind + leftover))
      (hpos : 0 < leftover) (hlt : leftover < rowWidth kind) :
      Reports record (.incompleteRow record.title leftover)
  /-- A function starts with a lower-case letter, and a type does not. -/
  | unusualCapitalization (definition : Definition) (h : record.definition? = some definition)
      (hcase : ¬ (definition.kind = .function ↔
        ∃ c ∈ record.title.head?, Unicode.isLowercase c = true)) :
      Reports record (.unusualCapitalization record.title definition.kind)
  /-- There are texts behind the table of a definition. -/
  | textBehindTable (definition : Definition) (h : record.definition? = some definition)
      (hsuffix : record.suffix ≠ []) :
      Reports record (.textBehindTable record.title record.suffix)

theorem suggestedKind_eq_iff {title : Text} :
    suggestedKind title = kind ↔
      (kind = .function ↔ ∃ c ∈ title.head?, Unicode.isLowercase c = true) := by
  have hany : title.head?.any Unicode.isLowercase = true ↔
      ∃ c ∈ title.head?, Unicode.isLowercase c = true := Option.any_eq_true _ _
  rw [suggestedKind, ← hany]
  cases kind <;> cases title.head?.any Unicode.isLowercase <;> simp

/-! ### The notices in order -/

theorem notices_of_forall_not_headerAt
    (h : ∀ kind position, ¬ HeaderAt kind record.body position) :
    record.notices = [.noTable record.title] := by
  rw [notices, table?, ParameterTable.find?_eq_none_iff.2 h]

/-- A record with a header has an incomplete row or not, and it is dropped or not. -/
theorem notices_of_isFirstHeader (h : IsFirstHeader kind record.body position) :
    let leftover := (record.body.length - (position + rowWidth kind)) % rowWidth kind
    record.notices =
      (if leftover = 0 then [] else [.incompleteRow record.title leftover]) ++
        match record.definition? with
        | none => [.emptyTable record.title]
        | some definition =>
          (if suggestedKind record.title = definition.kind then []
            else [.unusualCapitalization record.title definition.kind]) ++
          (if record.suffix = [] then [] else [.textBehindTable record.title record.suffix]) := by
  intro leftover
  have htable : record.table? = some _ := ParameterTable.find?_of_isFirstHeader h
  have hleftover : ParameterTable.leftover ⟨kind, record.body.take position,
      record.body.drop (position + rowWidth kind)⟩ = leftover := by
    rw [ParameterTable.leftover, List.length_drop]
  rw [definition?_of_isFirstHeader h, notices, htable]
  simp only [hleftover, List.isEmpty_iff]
  split <;> simp

/-- A record is reported as dropped once when it is no definition, and else never. -/
theorem countP_isDrop_notices (record : Record) :
    record.notices.countP (·.IsDrop) = if record.definition? = none then 1 else 0 := by
  rcases exists_isFirstHeader_or record with ⟨kind, position, hfirst⟩ | hnone
  · rw [notices_of_isFirstHeader hfirst, List.countP_append]
    cases record.definition? with
    | none => split <;> simp [Notice.isDrop_iff]
    | some definition =>
      dsimp only
      split <;> split <;> split <;> simp [Notice.isDrop_iff]
  · rw [notices_of_forall_not_headerAt hnone, definition?_of_forall_not_headerAt hnone]
    simp [Notice.isDrop_iff]

/-- No notice about a record is given twice. -/
theorem nodup_notices (record : Record) : record.notices.Nodup := by
  rcases exists_isFirstHeader_or record with ⟨kind, position, hfirst⟩ | hnone
  · rw [notices_of_isFirstHeader hfirst]
    cases record.definition? with
    | none => split <;> simp
    | some definition =>
      dsimp only
      split <;> split <;> split <;> simp
  · simp [notices_of_forall_not_headerAt hnone]

/-! ### What is reported -/

theorem Reports.of_mem_notices (h : notice ∈ record.notices) : record.Reports notice := by
  rcases exists_isFirstHeader_or record with ⟨kind, position, hfirst⟩ | hnone
  · have hlength := hfirst.headerAt.le_length
    have hrow := Nat.mod_lt (record.body.length - (position + rowWidth kind)) (rowWidth_pos kind)
    rw [notices_of_isFirstHeader hfirst] at h
    rcases List.mem_append.1 h with h | h
    · obtain ⟨hleftover, h⟩ := List.mem_ite_nil_left.1 h
      obtain rfl := List.mem_singleton.1 h
      have hdiv :=
        Nat.div_add_mod' (record.body.length - (position + rowWidth kind)) (rowWidth kind)
      exact .incompleteRow kind position _ _ hfirst (by rw [hdiv]; omega)
        (Nat.pos_of_ne_zero hleftover) hrow
    · cases hdefinition : record.definition? with
      | none =>
        rw [hdefinition] at h
        obtain rfl := List.mem_singleton.1 h
        refine .emptyTable kind position hfirst (Nat.lt_of_not_le fun hle ↦ ?_)
        obtain ⟨definition, hsome, -⟩ := exists_definition?_iff.2 ⟨position, hfirst, hle⟩
        simp [hdefinition] at hsome
      | some definition =>
        rw [hdefinition] at h
        rcases List.mem_append.1 h with h | h
        · obtain ⟨hcase, h⟩ := List.mem_ite_nil_left.1 h
          obtain rfl := List.mem_singleton.1 h
          exact .unusualCapitalization definition hdefinition (mt suggestedKind_eq_iff.2 hcase)
        · obtain ⟨hsuffix, h⟩ := List.mem_ite_nil_left.1 h
          obtain rfl := List.mem_singleton.1 h
          exact .textBehindTable definition hdefinition hsuffix
  · rw [notices_of_forall_not_headerAt hnone] at h
    obtain rfl := List.mem_singleton.1 h
    exact .noTable hnone

theorem definition?_eq_none_of_short (h : IsFirstHeader kind record.body position)
    (hcells : record.body.length < position + rowWidth kind + rowWidth kind) :
    record.definition? = none := by
  rw [definition?_of_isFirstHeader h, if_pos]
  refine Decidable.byContradiction fun hparameters ↦ ?_
  have hheader := h.headerAt.le_length
  have hrow := ParameterTable.parameters_ne_nil_iff.1 hparameters
  rw [List.length_drop] at hrow
  dsimp only at hrow
  omega

theorem Reports.mem_notices (h : record.Reports notice) : notice ∈ record.notices := by
  cases h with
  | noTable h => rw [notices_of_forall_not_headerAt h]; exact List.mem_singleton_self _
  | emptyTable kind position h hcells =>
    rw [notices_of_isFirstHeader h, definition?_eq_none_of_short h hcells]
    exact List.mem_append_right _ (List.mem_singleton_self _)
  | incompleteRow kind position rows leftover h hcells hpos hlt =>
    have hleftover :
        (record.body.length - (position + rowWidth kind)) % rowWidth kind = leftover := by
      rw [hcells, Nat.add_sub_cancel_left, Nat.mul_add_mod', Nat.mod_eq_of_lt hlt]
    rw [notices_of_isFirstHeader h, hleftover, if_neg (Nat.ne_of_gt hpos)]
    exact List.mem_append_left _ (List.mem_singleton_self _)
  | unusualCapitalization definition h hcase =>
    obtain ⟨kind, position, hfirst⟩ := exists_isFirstHeader_of_definition? h
    rw [notices_of_isFirstHeader hfirst, h]
    refine List.mem_append_right _ (List.mem_append_left _ ?_)
    rw [if_neg (mt suggestedKind_eq_iff.1 hcase)]
    exact List.mem_singleton_self _
  | textBehindTable definition h hsuffix =>
    obtain ⟨kind, position, hfirst⟩ := exists_isFirstHeader_of_definition? h
    rw [notices_of_isFirstHeader hfirst, h]
    refine List.mem_append_right _ (List.mem_append_right _ ?_)
    rw [if_neg hsuffix]
    exact List.mem_singleton_self _

theorem mem_notices_iff : notice ∈ record.notices ↔ record.Reports notice :=
  ⟨.of_mem_notices, Reports.mem_notices⟩

end Record

end ApiReference.Page
