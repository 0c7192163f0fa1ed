import ApiReference.Proofs.Page.TableHeader

/-!
# The rows of a table of parameters

The cells behind the header of a table are read row by row, and each row is as wide as the header.
So the number of parameters is that of the complete rows, each parameter says what its own row says,
and the cells of a row that is not complete say nothing. Together with the place of the header this
settles the definition that a record describes: it is known from the body of the record cell by
cell, and apart from its name it depends on nothing else.

## Main definitions

* `IsRequired`, `Describes`: what a row says of a parameter.
* `Record.DefinesAt`: the definition that a record describes when its first header is at a position.

## Main results

* `rows_induction`: cells are a row with more cells behind it, or too few for a row.
* `ParameterTable.length_parameters`, `ParameterTable.describes_of_getElem?`: the parameters of a
  table.
* `ParameterTable.parameters_append_of_short`: the cells of an incomplete row do not matter.
* `Record.definition?_reads_rows`: the definition that a record describes.
-/

namespace ApiReference.Page

open Schema

variable {kind : Kind} {texts row cells : List Text} {parameter : Parameter} {position : Nat}

/-- Whether a row says that its parameter is required. A field of a type is, unless its description
starts by saying that it is optional. A parameter of a function is when the third cell says "yes",
in any case of its letters. -/
def IsRequired : Kind → List Text → Prop
  | .type, row => ∀ description ∈ row.getLast?, ¬ ("Optional" : Text) <+: description
  | .function, row => ∃ requirement ∈ row[2]?, Text.asciiLower requirement = "yes"

/-- What a row says of a parameter. -/
structure Describes (kind : Kind) (row : List Text) (parameter : Parameter) : Prop where
  length_eq : row.length = rowWidth kind
  name : row[0]? = some parameter.name
  declaredType : row[1]? = some parameter.declaredType
  description : row.getLast? = some parameter.description
  required : parameter.required = true ↔ IsRequired kind row

/-- A row describes one parameter only. -/
theorem Describes.unique {other : Parameter} (h : Describes kind row parameter)
    (hother : Describes kind row other) : parameter = other := by
  have hname := Option.some.inj (h.name.symm.trans hother.name)
  have htype := Option.some.inj (h.declaredType.symm.trans hother.declaredType)
  have hdescription := Option.some.inj (h.description.symm.trans hother.description)
  have hrequired := Bool.eq_iff_iff.2 (h.required.trans hother.required.symm)
  cases parameter
  cases other
  simp_all

/-- Cells are a row with more cells behind it, or too few for a row. -/
@[elab_as_elim]
theorem rows_induction {motive : List Text → Prop} (kind : Kind)
    (short : ∀ cells, cells.length < rowWidth kind → motive cells)
    (row : ∀ row cells, row.length = rowWidth kind → motive cells → motive (row ++ cells))
    (cells : List Text) : motive cells := by
  induction hlength : cells.length using Nat.strong_induction_on generalizing cells with
  | _ n ih =>
    subst hlength
    by_cases hshort : cells.length < rowWidth kind
    · exact short cells hshort
    · have hpos := rowWidth_pos kind
      rw [← List.take_append_drop (rowWidth kind) cells]
      refine row _ _ (by rw [List.length_take]; omega) (ih _ ?_ _ rfl)
      rw [List.length_drop]
      omega

namespace ParameterTable

variable {preamble : List Text}

/-! ### Parameters -/

theorem parameters_of_short (h : cells.length < rowWidth kind) :
    parameters ⟨kind, preamble, cells⟩ = [] := by
  refine Decidable.byContradiction fun hne ↦ ?_
  exact absurd (parameters_ne_nil_iff.1 hne) (Nat.not_le.2 h)

/-- The first row describes the first parameter, and the other parameters are those of the cells
behind it. -/
theorem exists_parameters_append (preamble : List Text) (h : row.length = rowWidth kind) :
    ∃ parameter, Describes kind row parameter ∧ ∀ cells,
      parameters ⟨kind, preamble, row ++ cells⟩ =
        parameter :: parameters ⟨kind, preamble, cells⟩ := by
  cases kind with
  | type =>
    obtain ⟨name, declaredType, description, rfl⟩ := List.length_eq_three.1 h
    have hrequired : (!("Optional" : Text).isPrefixOf description) = true ↔
        ¬ ("Optional" : Text) <+: description := by
      rw [Bool.not_eq_true', Bool.eq_false_iff, ne_eq, List.isPrefixOf_iff_prefix]
    exact ⟨_, ⟨rfl, rfl, rfl, rfl, hrequired.trans (by simp [IsRequired])⟩, fun _ ↦ rfl⟩
  | function =>
    obtain ⟨name, declaredType, requirement, description, rfl⟩ := List.length_eq_four.1 h
    exact ⟨_, ⟨rfl, rfl, rfl, rfl, by simp [IsRequired]⟩, fun _ ↦ rfl⟩

/-- There is one parameter for each complete row. -/
theorem length_parameters (kind : Kind) (preamble cells : List Text) :
    (parameters ⟨kind, preamble, cells⟩).length = cells.length / rowWidth kind := by
  induction cells using rows_induction kind with
  | short cells h => rw [parameters_of_short h, Nat.div_eq_of_lt h, List.length_nil]
  | row row cells h ih =>
    obtain ⟨parameter, -, happend⟩ := exists_parameters_append preamble h
    rw [happend, List.length_cons, ih, List.length_append, h,
      Nat.add_div_left _ (rowWidth_pos kind)]

/-- Each parameter is described by its own row. -/
theorem describes_of_getElem? {j : Nat}
    (h : (parameters ⟨kind, preamble, cells⟩)[j]? = some parameter) :
    Describes kind ((cells.drop (j * rowWidth kind)).take (rowWidth kind)) parameter := by
  induction cells using rows_induction kind generalizing j with
  | short cells hshort => simp [parameters_of_short hshort] at h
  | row row cells hrow ih =>
    obtain ⟨first, hfirst, happend⟩ := exists_parameters_append preamble hrow
    rw [happend] at h
    cases j with
    | zero =>
      obtain rfl := Option.some.inj h
      rwa [Nat.zero_mul, List.drop_zero, ← hrow, List.take_left]
    | succ j =>
      have hdrop : (row ++ cells).drop ((j + 1) * rowWidth kind) =
          cells.drop (j * rowWidth kind) := by
        rw [Nat.succ_mul, Nat.add_comm, ← List.drop_drop, ← hrow, List.drop_left]
      rw [hdrop]
      exact ih (by simpa using h)

/-- Parameters are read back from rows that describe them. -/
theorem parameters_flatMap {cellsOf : Parameter → List Text} {described : List Parameter}
    (h : ∀ parameter ∈ described, Describes kind (cellsOf parameter) parameter) :
    parameters ⟨kind, preamble, described.flatMap cellsOf⟩ = described := by
  induction described with
  | nil => exact parameters_of_short (rowWidth_pos kind)
  | cons parameter described ih =>
    obtain ⟨hparameter, hdescribed⟩ := List.forall_mem_cons.1 h
    obtain ⟨first, hfirst, happend⟩ := exists_parameters_append preamble hparameter.length_eq
    rw [List.flatMap_cons, happend, ih hdescribed, hfirst.unique hparameter]

/-- Behind complete rows, cells that are too few for another row do not matter. -/
theorem parameters_append_of_short {rest : List Text} (hcells : rowWidth kind ∣ cells.length)
    (hrest : rest.length < rowWidth kind) :
    parameters ⟨kind, preamble, cells ++ rest⟩ = parameters ⟨kind, preamble, cells⟩ := by
  induction cells using rows_induction kind with
  | short cells hshort =>
    obtain rfl := List.length_eq_zero_iff.1 (Nat.eq_zero_of_dvd_of_lt hcells hshort)
    rw [List.nil_append, parameters_of_short hrest, parameters_of_short hshort]
  | row row cells hrow ih =>
    rw [List.length_append, hrow, Nat.dvd_add_self_left] at hcells
    obtain ⟨parameter, -, happend⟩ := exists_parameters_append preamble hrow
    rw [List.append_assoc, happend, happend, ih hcells]

/-- The complete rows decide the parameters. -/
theorem parameters_take_append {rest : List Text} (hrest : rest.length < rowWidth kind) :
    parameters ⟨kind, preamble, cells.take (cells.length / rowWidth kind * rowWidth kind) ++ rest⟩ =
      parameters ⟨kind, preamble, cells⟩ := by
  have hlt := Nat.mod_lt cells.length (rowWidth_pos kind)
  have hdiv := Nat.div_add_mod' cells.length (rowWidth kind)
  generalize hn : cells.length / rowWidth kind * rowWidth kind = n at hdiv
  have hdvd : rowWidth kind ∣ (cells.take n).length := by
    rw [List.length_take, Nat.min_eq_left (by omega), ← hn]
    exact Nat.dvd_mul_left _ _
  have hleft : (cells.drop n).length < rowWidth kind := by
    rw [List.length_drop]
    omega
  calc parameters ⟨kind, preamble, cells.take n ++ rest⟩
      = parameters ⟨kind, preamble, cells.take n⟩ := parameters_append_of_short hdvd hrest
    _ = parameters ⟨kind, preamble, cells.take n ++ cells.drop n⟩ :=
      (parameters_append_of_short hdvd hleft).symm
    _ = parameters ⟨kind, preamble, cells⟩ := by rw [List.take_append_drop]

end ParameterTable

namespace Record

variable {record : Record} {definition : Definition}

/-! ### Definitions -/

/-- The definition that a record describes when its first header is at a position. The header is one
for its kind, and there is a complete row behind it. The texts before the header are the
description, and the complete rows behind it describe the parameters. -/
structure DefinesAt (record : Record) (position : Nat) (definition : Definition) : Prop where
  isFirstHeader : IsFirstHeader definition.kind record.body position
  has_row :
    position + rowWidth definition.kind + rowWidth definition.kind ≤ record.body.length
  name : definition.name = record.title
  description : definition.description =
    List.intercalate ['\n'] ((record.body.take position).filter (· ≠ []))
  length_parameters : definition.parameters.length =
    (record.body.length - position - rowWidth definition.kind) / rowWidth definition.kind
  parameters : ∀ j parameter, definition.parameters[j]? = some parameter →
    Describes definition.kind
      ((record.body.drop (position + rowWidth definition.kind + j * rowWidth definition.kind)).take
        (rowWidth definition.kind)) parameter

theorem exists_definesAt (h : record.definition? = some definition) :
    ∃ position, record.DefinesAt position definition := by
  obtain ⟨table, htable, hparameters, rfl⟩ := definition?_eq_some_iff.1 h
  obtain ⟨kind, position, hfirst, rfl⟩ := ParameterTable.exists_isFirstHeader_of_find? htable
  refine ⟨position, hfirst, ?_, rfl, ?_, ?_, fun j parameter hparameter ↦ ?_⟩
  · have hheader := hfirst.headerAt.le_length
    have hcells := ParameterTable.parameters_ne_nil_iff.1 hparameters
    rw [List.length_drop] at hcells
    dsimp only at hcells hheader ⊢
    omega
  · refine congrArg (List.intercalate ['\n']) (List.filter_congr fun text _ ↦ ?_)
    cases text <;> rfl
  · rw [Nat.sub_sub, ← List.length_drop]
    exact ParameterTable.length_parameters _ _ _
  · have hrow := ParameterTable.describes_of_getElem? hparameter
    rwa [List.drop_drop] at hrow

/-- What the cells say settles the definition. -/
theorem DefinesAt.unique {position' : Nat} {other : Definition}
    (h : record.DefinesAt position definition) (h' : record.DefinesAt position' other) :
    definition = other := by
  obtain ⟨hkind, rfl⟩ := h.isFirstHeader.unique h'.isFirstHeader
  have hparameters : definition.parameters = other.parameters := by
    have hlength : definition.parameters.length = other.parameters.length := by
      rw [h.length_parameters, h'.length_parameters, hkind]
    refine List.ext_getElem hlength fun j hj hj' ↦ ?_
    have hrow := h.parameters j _ (List.getElem?_eq_getElem hj)
    have hrow' := h'.parameters j _ (List.getElem?_eq_getElem hj')
    rw [← hkind] at hrow'
    exact hrow.unique hrow'
  have hname := h.name.trans h'.name.symm
  have hdescription := h.description.trans h'.description.symm
  cases definition
  cases other
  simp_all

/-- The cells decide which definition a record describes. -/
theorem definition?_eq_some_iff_definesAt :
    record.definition? = some definition ↔ ∃ position, record.DefinesAt position definition := by
  refine ⟨exists_definesAt, ?_⟩
  rintro ⟨position, h⟩
  obtain ⟨other, hother, -⟩ := exists_definition?_iff.2 ⟨position, h.isFirstHeader, h.has_row⟩
  obtain ⟨_, hdefines⟩ := exists_definesAt hother
  rw [hother, h.unique hdefines]

theorem isSome_definition?_iff :
    record.definition?.isSome ↔ ∃ kind, record.HasRows kind := by
  simp only [← exists_definition?_iff, Option.isSome_iff_exists]
  exact ⟨fun ⟨definition, h⟩ ↦ ⟨_, definition, h, rfl⟩, fun ⟨_, definition, h, _⟩ ↦ ⟨definition, h⟩⟩

/-- Records with one body describe the same but for the name. -/
theorem definition?_eq_map (record : Record) (title : Text) (suffix : List Text) :
    definition? ⟨title, record.body, suffix⟩ =
      record.definition?.map fun definition ↦ { definition with name := title } := by
  have htable : table? ⟨title, record.body, suffix⟩ = record.table? := rfl
  cases h : record.table? with
  | none =>
    rw [definition?_of_table?_eq_none h, definition?_of_table?_eq_none (htable.trans h)]
    rfl
  | some table =>
    rw [definition?_of_table?_eq_some h, definition?_of_table?_eq_some (htable.trans h)]
    split <;> rfl

/-- The texts up to the last complete row decide the definition, whatever cells of an incomplete row
are behind them. -/
theorem definition?_of_rows (h : IsFirstHeader kind record.body position) {rest : List Text}
    (hrest : rest.length < rowWidth kind) :
    let rows := (record.body.length - position - rowWidth kind) / rowWidth kind
    let complete := record.body.take (position + rowWidth kind + rows * rowWidth kind)
    definition? ⟨record.title, complete ++ rest, record.suffix⟩ = record.definition? := by
  intro rows complete
  let cells := record.body.drop (position + rowWidth kind)
  have hcells : cells.length / rowWidth kind = rows := by rw [List.length_drop, ← Nat.sub_sub]
  have hcomplete : complete ++ rest =
      record.body.take (position + rowWidth kind) ++
        (cells.take (rows * rowWidth kind) ++ rest) := by
    rw [← List.append_assoc, ← List.take_add]
  have hlength :
      (record.body.take (position + rowWidth kind)).length = position + rowWidth kind := by
    rw [List.length_take, Nat.min_eq_left h.headerAt.le_length]
  have htake : (complete ++ rest).take (position + rowWidth kind) =
      record.body.take (position + rowWidth kind) := by
    rw [hcomplete, List.take_left' hlength]
  have hdrop : (complete ++ rest).drop (position + rowWidth kind) =
      cells.take (rows * rowWidth kind) ++ rest := by
    rw [hcomplete, List.drop_left' hlength]
  have hpreamble : (complete ++ rest).take position = record.body.take position := by
    have htake' := congrArg (List.take position) htake
    rwa [List.take_take, List.take_take, Nat.min_eq_left (Nat.le_add_right _ _)] at htake'
  have hfirst : IsFirstHeader kind (complete ++ rest) position := h.of_take_eq htake.symm
  rw [definition?_of_isFirstHeader h, definition?_of_isFirstHeader hfirst, hpreamble, hdrop,
    ← hcells, ParameterTable.parameters_take_append hrest]
  rfl

/-- A record describes a definition exactly when a header stands among its texts with a complete row
behind it. Then the definition is what the cells say from the first header on, row by row. Neither
the case of the title nor the suffix has an effect on it, and neither do the cells of an incomplete
row. -/
theorem definition?_reads_rows (record : Record) :
    (record.definition?.isSome ↔ ∃ kind, record.HasRows kind) ∧
    (∀ definition, record.definition? = some definition ↔
      ∃ position, record.DefinesAt position definition) ∧
    (∀ title suffix, definition? ⟨title, record.body, suffix⟩ =
      record.definition?.map fun definition ↦ { definition with name := title }) ∧
    ∀ kind position rest, IsFirstHeader kind record.body position → rest.length < rowWidth kind →
      let rows := (record.body.length - position - rowWidth kind) / rowWidth kind
      let complete := record.body.take (position + rowWidth kind + rows * rowWidth kind)
      definition? ⟨record.title, complete ++ rest, record.suffix⟩ = record.definition? :=
  ⟨isSome_definition?_iff, fun _ ↦ definition?_eq_some_iff_definesAt, definition?_eq_map record,
    fun _ _ _ hfirst hrest ↦ definition?_of_rows hfirst hrest⟩

end Record

end ApiReference.Page
