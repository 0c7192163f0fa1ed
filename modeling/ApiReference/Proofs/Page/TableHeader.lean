import ApiReference.Page.Interpretation
import Mathlib.Data.List.Infix

/-!
# The header of a table of parameters

The table of parameters of a record is found by its header: the first place among the texts of the
record at which the cells of a header of either kind stand one after another. What is before it is
the preamble, and what is behind it are the cells. A record is a definition when the cells make at
least one row.

## Main definitions

* `HeaderAt`, `IsFirstHeader`: the places of headers among some texts.
* `Record.HasRows`: whether a record has a table for a kind with a complete row.

## Main results

* `ParameterTable.find?_eq_some_iff`, `ParameterTable.find?_of_isFirstHeader`: the table that is
  found is the one with the first header.
* `IsFirstHeader.unique`, `IsFirstHeader.of_take_eq`: there is at most one first header, and what
  stands behind it has no say in where it is.
* `Record.exists_definition?_iff`: a record with a complete row is a definition, and no other is.
-/

namespace ApiReference.Page

open Schema

variable {kind : Kind} {texts : List Text} {position : Nat}

theorem rowWidth_pos (kind : Kind) : 0 < rowWidth kind := by cases kind <;> decide

/-- The header for a kind stands at a position among some texts. -/
def HeaderAt (kind : Kind) (texts : List Text) (position : Nat) : Prop :=
  header kind <+: texts.drop position

/-- The header for a kind stands at a position among some texts, and no header stands before. -/
structure IsFirstHeader (kind : Kind) (texts : List Text) (position : Nat) : Prop where
  headerAt : HeaderAt kind texts position
  not_before : ∀ earlier < position, ∀ other, ¬ HeaderAt other texts earlier

/-- A record has a table for a kind, and there is a complete row behind the header. -/
def Record.HasRows (kind : Kind) (record : Record) : Prop :=
  ∃ position, IsFirstHeader kind record.body position ∧
    position + rowWidth kind + rowWidth kind ≤ record.body.length

instance (kind : Kind) (texts : List Text) (position : Nat) :
    Decidable (HeaderAt kind texts position) :=
  inferInstanceAs (Decidable (header kind <+: texts.drop position))

instance (kind : Kind) (texts : List Text) (position : Nat) :
    Decidable (IsFirstHeader kind texts position) :=
  decidable_of_iff
    (HeaderAt kind texts position ∧ ∀ earlier < position,
      ¬ HeaderAt .type texts earlier ∧ ¬ HeaderAt .function texts earlier)
    ⟨fun h ↦ ⟨h.1, fun earlier hearlier other ↦ match other with
        | .type => (h.2 earlier hearlier).1
        | .function => (h.2 earlier hearlier).2⟩,
      fun h ↦ ⟨h.headerAt, fun earlier hearlier ↦
        ⟨h.not_before earlier hearlier .type, h.not_before earlier hearlier .function⟩⟩⟩

instance (kind : Kind) (record : Record) : Decidable (record.HasRows kind) :=
  decidable_of_iff
    (∃ position < record.body.length, IsFirstHeader kind record.body position ∧
      position + rowWidth kind + rowWidth kind ≤ record.body.length)
    ⟨fun ⟨position, _, h⟩ ↦ ⟨position, h⟩, fun ⟨position, h⟩ ↦ ⟨position, by
      have hpos := rowWidth_pos kind
      omega, h⟩⟩

theorem HeaderAt.le_length (h : HeaderAt kind texts position) :
    position + rowWidth kind ≤ texts.length := by
  have hpos := rowWidth_pos kind
  have hlength : rowWidth kind ≤ texts.length - position := by
    rw [← List.length_drop]
    exact h.length_le
  omega

namespace ParameterTable

theorem headerAt?_eq_some_iff : headerAt? texts = some kind ↔ header kind <+: texts := by
  have hdisjoint : header .type <+: texts → ¬ header .function <+: texts := by
    rintro ⟨behind, rfl⟩ ⟨behind', h⟩
    simp [header] at h
  rw [headerAt?, List.find?_cons, List.find?_cons, List.find?_nil]
  simp only [← List.isPrefixOf_iff_prefix] at hdisjoint ⊢
  cases htype : (header .type).isPrefixOf texts
  · cases hfunction : (header .function).isPrefixOf texts <;> cases kind <;> simp_all
  · cases kind <;> simp_all

theorem headerAt?_eq_none_iff : headerAt? texts = none ↔ ∀ kind, ¬ header kind <+: texts := by
  rw [Option.eq_none_iff_forall_ne_some]
  exact forall_congr' fun kind ↦ not_congr headerAt?_eq_some_iff

/-- A table is found by its header when no header stands before. -/
theorem find?_append {preamble cells : List Text}
    (h : ∀ earlier < preamble.length, ∀ other,
      ¬ HeaderAt other (preamble ++ (header kind ++ cells)) earlier) :
    find? (preamble ++ (header kind ++ cells)) = some ⟨kind, preamble, cells⟩ := by
  induction preamble with
  | nil =>
    have hheader : headerAt? (header kind ++ cells) = some kind :=
      headerAt?_eq_some_iff.2 (List.prefix_append _ _)
    cases kind <;> simp_all [header, find?, rowWidth]
  | cons text preamble ih =>
    have hheader : headerAt? (text :: (preamble ++ (header kind ++ cells))) = none :=
      headerAt?_eq_none_iff.2 (h 0 (Nat.succ_pos _))
    rw [List.cons_append, find?, hheader, ih fun earlier hearlier ↦ h (earlier + 1) (by simpa)]
    rfl

/-- The table that is found is the one with the first header. -/
theorem find?_eq_some_iff {table : ParameterTable} :
    find? texts = some table ↔
      texts = table.preamble ++ (header table.kind ++ table.cells) ∧
        IsFirstHeader table.kind texts table.preamble.length := by
  constructor
  · intro h
    induction texts generalizing table with
    | nil => simp [find?] at h
    | cons text rest ih =>
      rw [find?] at h
      split at h
      · rename_i kind hheader
        obtain ⟨cells, hcells⟩ := headerAt?_eq_some_iff.1 hheader
        obtain rfl := Option.some.inj h
        have hdrop : (text :: rest).drop (rowWidth kind) = cells := by
          rw [← hcells, rowWidth, List.drop_left]
        rw [hdrop]
        exact ⟨hcells.symm, hcells ▸ List.prefix_append _ _, fun _ h ↦ absurd h (Nat.not_lt_zero _)⟩
      · rename_i hheader
        obtain ⟨found, hfound, rfl⟩ := Option.map_eq_some_iff.1 h
        obtain ⟨hrest, hfirst⟩ := ih hfound
        refine ⟨congrArg (text :: ·) hrest, hfirst.headerAt, ?_⟩
        rintro (_ | earlier) hearlier
        · exact headerAt?_eq_none_iff.1 hheader
        · exact hfirst.not_before earlier (Nat.lt_of_succ_lt_succ hearlier)
  · rintro ⟨htexts, hfirst⟩
    rw [htexts]
    exact find?_append (htexts ▸ hfirst.not_before)

/-- The first header divides the texts into those before its table and the cells. -/
theorem find?_of_isFirstHeader (h : IsFirstHeader kind texts position) :
    find? texts = some ⟨kind, texts.take position, texts.drop (position + rowWidth kind)⟩ := by
  obtain ⟨cells, hcells⟩ := h.headerAt
  have htexts : texts = texts.take position ++ (header kind ++ cells) := by
    rw [hcells, List.take_append_drop]
  have hposition : (texts.take position).length = position := by
    have hle := h.headerAt.le_length
    rw [List.length_take]
    omega
  have hdrop : texts.drop (position + rowWidth kind) = cells := by
    rw [← List.drop_drop, ← hcells, rowWidth, List.drop_left]
  rw [hdrop]
  exact find?_eq_some_iff.2 ⟨htexts, hposition.symm ▸ h⟩

/-- A table is found where there is a header, and the table is that of the first one. -/
theorem exists_isFirstHeader_of_find? {table : ParameterTable} (h : find? texts = some table) :
    ∃ kind position, IsFirstHeader kind texts position ∧
      table = ⟨kind, texts.take position, texts.drop (position + rowWidth kind)⟩ := by
  obtain ⟨-, hfirst⟩ := find?_eq_some_iff.1 h
  exact ⟨_, _, hfirst, Option.some.inj (h.symm.trans (find?_of_isFirstHeader hfirst))⟩

/-- No table is found exactly when there is no header anywhere. -/
theorem find?_eq_none_iff :
    find? texts = none ↔ ∀ kind position, ¬ HeaderAt kind texts position := by
  induction texts with
  | nil => exact iff_of_true rfl fun kind _ ↦ by cases kind <;> simp [HeaderAt, header]
  | cons text rest ih =>
    rw [find?]
    split
    · rename_i kind hheader
      exact iff_of_false (by simp) fun h ↦ h kind 0 (headerAt?_eq_some_iff.1 hheader)
    · rename_i hheader
      rw [Option.map_eq_none_iff, ih]
      refine ⟨fun h kind position ↦ ?_, fun h kind position ↦ h kind (position + 1)⟩
      cases position with
      | zero => exact headerAt?_eq_none_iff.1 hheader kind
      | succ position => exact h kind position

/-- A table has parameters when there are cells for a row. -/
theorem parameters_ne_nil_iff {table : ParameterTable} :
    table.parameters ≠ [] ↔ rowWidth table.kind ≤ table.cells.length := by
  obtain ⟨kind, preamble, cells⟩ := table
  cases kind with
  | type => rcases cells with _ | ⟨_, _ | ⟨_, _ | ⟨_, _⟩⟩⟩ <;>
      simp [parameters, fields, rowWidth, header]
  | function => rcases cells with _ | ⟨_, _ | ⟨_, _ | ⟨_, _ | ⟨_, _⟩⟩⟩⟩ <;>
      simp [parameters, arguments, rowWidth, header]

end ParameterTable

/-! ### The first header -/

theorem headerAt_iff : HeaderAt kind texts position ↔
    (texts.drop position).take (rowWidth kind) = header kind :=
  List.prefix_iff_eq_take.trans eq_comm

/-- Whether a header stands at a position is decided by the texts up to its end. -/
theorem HeaderAt.of_take_eq {texts' : List Text} {n : Nat} (h : HeaderAt kind texts position)
    (htake : texts.take n = texts'.take n) (hn : position + rowWidth kind ≤ n) :
    HeaderAt kind texts' position := by
  have htake' : (texts.drop position).take (rowWidth kind) =
      (texts'.drop position).take (rowWidth kind) := by
    have hcut (s : List Text) : (s.drop position).take (rowWidth kind) =
        ((s.take n).take (position + rowWidth kind)).drop position := by
      rw [List.take_take, Nat.min_eq_left hn, List.drop_take, Nat.add_sub_cancel_left]
    rw [hcut, hcut, htake]
  rw [headerAt_iff] at h ⊢
  rw [← htake', h]

/-- Whether a header is the first one is decided by the texts up to its end. A header that starts
before it ends at most there, since the two headers differ by one cell in their width. -/
theorem IsFirstHeader.of_take_eq {texts' : List Text} (h : IsFirstHeader kind texts position)
    (htake : texts.take (position + rowWidth kind) = texts'.take (position + rowWidth kind)) :
    IsFirstHeader kind texts' position where
  headerAt := h.headerAt.of_take_eq htake (Nat.le_refl _)
  not_before earlier hearlier other hother := by
    have hwidth : rowWidth other ≤ rowWidth kind + 1 := by cases kind <;> cases other <;> decide
    exact h.not_before earlier hearlier other (hother.of_take_eq htake.symm (by omega))

theorem IsFirstHeader.unique {kind' : Kind} {position' : Nat}
    (h : IsFirstHeader kind texts position) (h' : IsFirstHeader kind' texts position') :
    kind = kind' ∧ position = position' := by
  have htable := Option.some.inj ((ParameterTable.find?_of_isFirstHeader h).symm.trans
    (ParameterTable.find?_of_isFirstHeader h'))
  obtain ⟨rfl, -, -⟩ := ParameterTable.mk.inj htable
  refine ⟨rfl, Nat.le_antisymm ?_ ?_⟩ <;> refine Nat.le_of_not_lt fun hlt ↦ ?_
  · exact h.not_before _ hlt _ h'.headerAt
  · exact h'.not_before _ hlt _ h.headerAt

namespace Record

variable {record : Record} {definition : Definition}

theorem definition?_of_table?_eq_none (h : record.table? = none) : record.definition? = none := by
  rw [definition?, h]
  rfl

theorem definition?_of_table?_eq_some {table : ParameterTable} (h : record.table? = some table) :
    record.definition? =
      if table.parameters = [] then none
      else some ⟨record.title, table.description, table.parameters, table.kind⟩ := by
  rw [definition?, h]
  change (guard (!table.parameters.isEmpty) >>= fun _ ↦ some _) = _
  cases table.parameters <;> rfl

/-- The definition of a record is that of its first header. -/
theorem definition?_of_isFirstHeader (h : IsFirstHeader kind record.body position) :
    let table : ParameterTable :=
      ⟨kind, record.body.take position, record.body.drop (position + rowWidth kind)⟩
    record.definition? =
      if table.parameters = [] then none
      else some ⟨record.title, table.description, table.parameters, kind⟩ :=
  definition?_of_table?_eq_some (ParameterTable.find?_of_isFirstHeader h)

/-- A record without a header is no definition. -/
theorem definition?_of_forall_not_headerAt
    (h : ∀ kind position, ¬ HeaderAt kind record.body position) : record.definition? = none :=
  definition?_of_table?_eq_none (ParameterTable.find?_eq_none_iff.2 h)

theorem exists_isFirstHeader_or (record : Record) :
    (∃ kind position, IsFirstHeader kind record.body position) ∨
      ∀ kind position, ¬ HeaderAt kind record.body position := by
  cases htable : record.table? with
  | none => exact .inr (ParameterTable.find?_eq_none_iff.1 htable)
  | some table =>
    obtain ⟨kind, position, hfirst, -⟩ := ParameterTable.exists_isFirstHeader_of_find? htable
    exact .inl ⟨kind, position, hfirst⟩

theorem exists_isFirstHeader_of_definition? (h : record.definition? = some definition) :
    ∃ kind position, IsFirstHeader kind record.body position := by
  rcases exists_isFirstHeader_or record with hheader | hnone
  · exact hheader
  · simp [definition?_of_forall_not_headerAt hnone] at h

theorem definition?_eq_some_iff :
    record.definition? = some definition ↔
      ∃ table, record.table? = some table ∧ table.parameters ≠ [] ∧
        definition = ⟨record.title, table.description, table.parameters, table.kind⟩ := by
  cases htable : record.table? with
  | none => simp [definition?_of_table?_eq_none htable]
  | some table =>
    rw [definition?_of_table?_eq_some htable]
    by_cases hparameters : table.parameters = []
    · simp [hparameters]
    · rw [if_neg hparameters, Option.some_inj]
      constructor
      · rintro rfl
        exact ⟨table, rfl, hparameters, rfl⟩
      · rintro ⟨_, ⟨⟩, -, rfl⟩
        rfl

/-- A record is a definition of a kind exactly when it has a table for the kind with a row. -/
theorem exists_definition?_iff :
    (∃ definition, record.definition? = some definition ∧ definition.kind = kind) ↔
      record.HasRows kind := by
  constructor
  · rintro ⟨definition, hdefinition, rfl⟩
    obtain ⟨table, htable, hparameters, rfl⟩ := definition?_eq_some_iff.1 hdefinition
    obtain ⟨kind, position, hfirst, rfl⟩ := ParameterTable.exists_isFirstHeader_of_find? htable
    have hheader := hfirst.headerAt.le_length
    have hcells := ParameterTable.parameters_ne_nil_iff.1 hparameters
    rw [List.length_drop] at hcells
    exact ⟨position, hfirst, by dsimp only at hcells ⊢; omega⟩
  · rintro ⟨position, hfirst, hrows⟩
    have htable : record.table? = some _ := ParameterTable.find?_of_isFirstHeader hfirst
    have hcells : rowWidth kind ≤ (record.body.drop (position + rowWidth kind)).length := by
      rw [List.length_drop]
      omega
    exact ⟨_, definition?_eq_some_iff.2
      ⟨_, htable, ParameterTable.parameters_ne_nil_iff.2 hcells, rfl⟩, rfl⟩

end Record

end ApiReference.Page
