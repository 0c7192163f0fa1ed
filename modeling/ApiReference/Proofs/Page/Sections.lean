import ApiReference.Page.Record
import Mathlib.Data.List.Forall2
import Mathlib.Data.List.TakeWhile

/-!
# The sections of a page

The headings of a page divide its fragments into sections: each section starts with its heading and
reaches to the next one. Every section makes one record, whose texts are those of the section in
order, and what is before the first heading makes none. A record depends on the fragments of its own
section only, so that pages can be put together at a heading. The records can also be had in one
pass over the fragments which knows no more than the record that is open and whether a table of it
has ended.

## Main definitions

* `IsSection`, `Partitions`: sections, and the division of fragments into them.
* `Segmenter`: a pass over the fragments.

## Main results

* `Record.ofFragments_append`: the records of pages that are put together at a heading.
* `Record.ofFragments_eq_iff_partitions`: the records are those of the sections.
* `Segmenter.finish_foldl_add`: the records are had in one pass.
-/

namespace ApiReference.Page

/-- The text of a heading. -/
def Fragment.heading? : Fragment → Option Text
  | .block .heading title => some title
  | _ => none

/-- The texts of a record in order. -/
def Record.texts (record : Record) : List Text := record.title :: (record.body ++ record.suffix)

/-- A section and its record. Below the heading of a section there is no other one. The texts in
front of the first end of a table are the body, and those behind it are the suffix. -/
inductive IsSection : List Fragment → Record → Prop
  | withoutTable (title : Text) (inside : List Fragment)
      (h : ∀ fragment ∈ inside, fragment.isHeading = false ∧ fragment ≠ .tableEnd) :
      IsSection (.block .heading title :: inside) ⟨title, texts inside, []⟩
  | withTable (title : Text) (inside behind : List Fragment)
      (h : ∀ fragment ∈ inside, fragment.isHeading = false ∧ fragment ≠ .tableEnd)
      (hbehind : ∀ fragment ∈ behind, fragment.isHeading = false) :
      IsSection (.block .heading title :: (inside ++ .tableEnd :: behind))
        ⟨title, texts inside, texts behind⟩

/-- Some fragments are divided into the sections of some records, behind fragments without a
heading. -/
def Partitions (fragments : List Fragment) (records : List Record) : Prop :=
  ∃ preamble sections, fragments = preamble ++ sections.flatten ∧
    (∀ fragment ∈ preamble, fragment.isHeading = false) ∧ List.Forall₂ IsSection sections records

variable {fragments below rest : List Fragment} {fragment : Fragment} {record : Record}
  {records : List Record}

theorem Fragment.isHeading_eq_false (h : ∀ title, fragment ≠ .block .heading title) :
    fragment.isHeading = false := by
  cases fragment with
  | tableEnd => rfl
  | block kind text =>
    cases kind with
    | heading => exact absurd rfl (h text)
    | paragraph => rfl
    | cell => rfl

theorem Fragment.heading?_eq_none_iff : fragment.heading? = none ↔ fragment.isHeading = false := by
  cases fragment with
  | tableEnd => exact iff_of_true rfl rfl
  | block kind text => cases kind <;> simp [heading?, isHeading]

theorem texts_append (fragments rest : List Fragment) :
    texts (fragments ++ rest) = texts fragments ++ texts rest :=
  List.filterMap_append

theorem Fragment.heading?_eq_some_iff {title : Text} :
    fragment.heading? = some title ↔ fragment = .block .heading title := by
  cases fragment with
  | tableEnd => simp [heading?]
  | block kind text => cases kind <;> simp [heading?]

@[simp] theorem texts_nil : texts [] = [] := rfl

@[simp] theorem texts_block_cons (kind : BlockKind) (text : Text) (rest : List Fragment) :
    texts (.block kind text :: rest) = text :: texts rest := rfl

@[simp] theorem texts_tableEnd_cons (rest : List Fragment) :
    texts (.tableEnd :: rest) = texts rest := rfl

/-- What is below a heading ends where another heading follows. -/
theorem takeWhile_not_isHeading_append (fragments : List Fragment)
    (hrest : ∀ fragment ∈ rest.head?, fragment.isHeading = true) :
    (fragments ++ rest).takeWhile (!·.isHeading) = fragments.takeWhile (!·.isHeading) := by
  have hnil : rest.takeWhile (!·.isHeading) = [] := by
    cases rest with
    | nil => rfl
    | cons fragment rest => exact List.takeWhile_cons_of_neg (by simp [hrest fragment rfl])
  rw [List.takeWhile_append, hnil, List.append_nil]
  split
  · rename_i hlength
    exact ((List.takeWhile_prefix _).eq_of_length hlength).symm
  · rfl

namespace Record

/-! ### Records of sections -/

theorem ofFragments_cons_of_isHeading_eq_false (h : fragment.isHeading = false)
    (rest : List Fragment) : ofFragments (fragment :: rest) = ofFragments rest := by
  cases fragment with
  | tableEnd => rfl
  | block kind text =>
    cases kind with
    | heading => cases h
    | paragraph => rfl
    | cell => rfl

theorem ofFragments_eq_nil (h : ∀ fragment ∈ fragments, fragment.isHeading = false) :
    ofFragments fragments = [] := by
  induction fragments with
  | nil => rfl
  | cons fragment fragments ih =>
    obtain ⟨hfragment, hfragments⟩ := List.forall_mem_cons.1 h
    rw [ofFragments_cons_of_isHeading_eq_false hfragment, ih hfragments]

/-- Pages that are put together at a heading have their own records. -/
theorem ofFragments_append (fragments : List Fragment)
    (hrest : ∀ fragment ∈ rest.head?, fragment.isHeading = true) :
    ofFragments (fragments ++ rest) = ofFragments fragments ++ ofFragments rest := by
  fun_induction ofFragments fragments with
  | case1 => rfl
  | case2 title fragments ih =>
    rw [List.cons_append, ofFragments, takeWhile_not_isHeading_append fragments hrest, ih,
      List.cons_append]
  | case3 fragment fragments hheading ih =>
    rw [List.cons_append,
      ofFragments_cons_of_isHeading_eq_false (Fragment.isHeading_eq_false hheading), ih]

/-- The only record of what is below a heading. -/
theorem ofFragments_heading_cons (title : Text)
    (hbelow : ∀ fragment ∈ below, fragment.isHeading = false) :
    ofFragments (.block .heading title :: below) = [ofSection title below] := by
  have hall : ∀ fragment ∈ below, (!fragment.isHeading) = true := fun fragment hfragment ↦ by
    rw [hbelow fragment hfragment]
    rfl
  rw [ofFragments, List.takeWhile_eq_self_iff.2 hall, ofFragments_eq_nil hbelow]

theorem ofSection_of_tableEnd_notMem (title : Text) (h : .tableEnd ∉ below) :
    ofSection title below = ⟨title, Page.texts below, []⟩ := by
  have hall : ∀ fragment ∈ below, (fragment != .tableEnd) = true :=
    fun _ hfragment ↦ bne_iff_ne.2 (ne_of_mem_of_not_mem hfragment h)
  rw [ofSection, List.takeWhile_eq_self_iff.2 hall, List.dropWhile_eq_nil_iff.2 hall]
  rfl

/-- The first end of a table divides the texts, and the others do nothing. -/
theorem ofSection_append_tableEnd_cons (title : Text) (h : .tableEnd ∉ below)
    (behind : List Fragment) :
    ofSection title (below ++ .tableEnd :: behind) =
      ⟨title, Page.texts below, Page.texts behind⟩ := by
  have hall : ∀ fragment ∈ below, (fragment != .tableEnd) = true :=
    fun _ hfragment ↦ bne_iff_ne.2 (ne_of_mem_of_not_mem hfragment h)
  rw [ofSection, List.takeWhile_append_of_pos hall, List.dropWhile_append_of_pos hall,
    List.takeWhile_cons_of_neg (by simp), List.dropWhile_cons_of_neg (by simp), List.append_nil]
  rfl

end Record

/-! ### The division into sections -/

theorem isSection_ofSection (title : Text)
    (hbelow : ∀ fragment ∈ below, fragment.isHeading = false) :
    IsSection (.block .heading title :: below) (.ofSection title below) := by
  by_cases hend : .tableEnd ∈ below
  · obtain ⟨inside, behind, rfl, hinside⟩ := List.eq_append_cons_of_mem hend
    obtain ⟨hheadings, hrest⟩ := List.forall_mem_append.1 hbelow
    rw [Record.ofSection_append_tableEnd_cons title hinside]
    exact .withTable title inside behind
      (fun fragment h ↦ ⟨hheadings fragment h, ne_of_mem_of_not_mem h hinside⟩)
      (List.forall_mem_cons.1 hrest).2
  · rw [Record.ofSection_of_tableEnd_notMem title hend]
    exact .withoutTable title below
      fun fragment h ↦ ⟨hbelow fragment h, ne_of_mem_of_not_mem h hend⟩

namespace IsSection

theorem isHeading_of_mem_head? (h : IsSection fragments record) :
    ∀ fragment ∈ fragments.head?, fragment.isHeading = true := by
  cases h <;> rintro fragment ⟨⟩ <;> rfl

theorem ofFragments_eq (h : IsSection fragments record) :
    Record.ofFragments fragments = [record] := by
  cases h with
  | withoutTable title inside h =>
    have hend : .tableEnd ∉ inside := fun hmem ↦ (h _ hmem).2 rfl
    rw [Record.ofFragments_heading_cons title fun fragment hmem ↦ (h fragment hmem).1,
      Record.ofSection_of_tableEnd_notMem title hend]
  | withTable title inside behind h hbehind =>
    have hend : .tableEnd ∉ inside := fun hmem ↦ (h _ hmem).2 rfl
    have hbelow : ∀ fragment ∈ inside ++ .tableEnd :: behind, fragment.isHeading = false :=
      List.forall_mem_append.2
        ⟨fun fragment hmem ↦ (h fragment hmem).1, List.forall_mem_cons.2 ⟨rfl, hbehind⟩⟩
    rw [Record.ofFragments_heading_cons title hbelow,
      Record.ofSection_append_tableEnd_cons title hend]

end IsSection

theorem isHeading_of_mem_head?_flatten {sections : List (List Fragment)}
    (h : List.Forall₂ IsSection sections records) :
    ∀ fragment ∈ sections.flatten.head?, fragment.isHeading = true := by
  cases h with
  | nil => exact fun _ h ↦ absurd h (Option.not_mem_none _)
  | cons hsection _ =>
    intro fragment hfragment
    refine hsection.isHeading_of_mem_head? fragment ?_
    cases hsection <;> exact hfragment

/-- The sections of fragments are those of their records. -/
theorem Partitions.ofFragments_eq (h : Partitions fragments records) :
    Record.ofFragments fragments = records := by
  obtain ⟨preamble, sections, rfl, hpreamble, hsections⟩ := h
  rw [Record.ofFragments_append preamble (isHeading_of_mem_head?_flatten hsections),
    Record.ofFragments_eq_nil hpreamble, List.nil_append]
  induction hsections with
  | nil => rfl
  | cons hsection hsections ih =>
    rw [List.flatten_cons,
      Record.ofFragments_append _ (isHeading_of_mem_head?_flatten hsections),
      hsection.ofFragments_eq, ih, List.singleton_append]

theorem partitions_ofFragments (fragments : List Fragment) :
    Partitions fragments (Record.ofFragments fragments) := by
  fun_induction Record.ofFragments fragments with
  | case1 => exact ⟨[], [], rfl, by simp, .nil⟩
  | case2 title fragments ih =>
    -- The preamble of what is behind the heading is below the heading.
    obtain ⟨below, sections, hfragments, hbelow, hsections⟩ := ih
    have htake : fragments.takeWhile (!·.isHeading) = below := by
      rw [hfragments,
        takeWhile_not_isHeading_append below (isHeading_of_mem_head?_flatten hsections),
        List.takeWhile_eq_self_iff]
      exact fun fragment hmem ↦ by rw [hbelow fragment hmem]; rfl
    refine ⟨[], (.block .heading title :: below) :: sections, ?_, by simp, ?_⟩
    · rw [List.flatten_cons, List.nil_append, List.cons_append, ← hfragments]
    · rw [htake]
      exact .cons (isSection_ofSection title hbelow) hsections
  | case3 fragment fragments hheading ih =>
    obtain ⟨preamble, sections, hfragments, hpreamble, hsections⟩ := ih
    exact ⟨fragment :: preamble, sections, congrArg (fragment :: ·) hfragments,
      List.forall_mem_cons.2 ⟨Fragment.isHeading_eq_false hheading, hpreamble⟩, hsections⟩

/-- The records of fragments are those of the sections into which they are divided, and they are
divided in one way only. -/
theorem Record.ofFragments_eq_iff_partitions :
    ofFragments fragments = records ↔ Partitions fragments records :=
  ⟨fun h ↦ h ▸ partitions_ofFragments fragments, Partitions.ofFragments_eq⟩

/-! ### Titles and texts -/

/-- There is one record for each heading, with the text of the heading as its title. -/
theorem Record.map_title_ofFragments (fragments : List Fragment) :
    (ofFragments fragments).map Record.title = fragments.filterMap Fragment.heading? := by
  fun_induction ofFragments fragments with
  | case1 => rfl
  | case2 title fragments ih => rw [List.map_cons, ih]; rfl
  | case3 fragment fragments hheading ih =>
    have hnone : fragment.heading? = none :=
      Fragment.heading?_eq_none_iff.2 (Fragment.isHeading_eq_false hheading)
    rw [ih, List.filterMap_cons_none hnone]

theorem Record.texts_ofSection (title : Text) (below : List Fragment) :
    (ofSection title below).texts = title :: Page.texts below := by
  rw [texts, ofSection, ← texts_append, List.takeWhile_append_dropWhile]

/-- The texts of the records are all texts from the first heading on, each of them once. -/
theorem Record.flatMap_texts_ofFragments (fragments : List Fragment) :
    (ofFragments fragments).flatMap Record.texts =
      Page.texts (fragments.dropWhile (!·.isHeading)) := by
  fun_induction ofFragments fragments with
  | case1 => rfl
  | case2 title fragments ih =>
    rw [List.flatMap_cons, texts_ofSection, ih, List.cons_append, ← texts_append,
      List.takeWhile_append_dropWhile]
    rfl
  | case3 fragment fragments hheading ih =>
    rw [ih, List.dropWhile_cons_of_pos (by rw [Fragment.isHeading_eq_false hheading]; rfl)]

/-! ### One pass -/

/-- A record with another text, which belongs to its suffix when a table of it has ended. -/
def Record.push (record : Record) (tableEnded : Bool) (text : Text) : Record :=
  if tableEnded then { record with suffix := record.suffix ++ [text] }
  else { record with body := record.body ++ [text] }

/-- A pass over the fragments: the records that are over, the open one, and whether a table has
ended since it was opened. -/
structure Segmenter where
  finished : List Record
  openRecord : Option Record
  tableEnded : Bool

namespace Segmenter

/-- The pass before the first fragment. -/
def start : Segmenter := ⟨[], none, false⟩

/-- The pass behind another fragment. A heading opens a record, and the one that was open is
over. -/
def add (s : Segmenter) : Fragment → Segmenter
  | .block .heading title => ⟨s.finished ++ s.openRecord.toList, some ⟨title, [], []⟩, false⟩
  | .block _ text => { s with openRecord := s.openRecord.map (·.push s.tableEnded text) }
  | .tableEnd => { s with tableEnded := true }

/-- All records at the end of the pass. -/
def finish (s : Segmenter) : List Record := s.finished ++ s.openRecord.toList

/-- The open record at the end of its section, from what is left of the section. -/
def closed (record : Record) : Bool → List Fragment → Record
  | true, below => { record with suffix := record.suffix ++ texts below }
  | false, below =>
    { record with
      body := record.body ++ (Record.ofSection record.title below).body
      suffix := record.suffix ++ (Record.ofSection record.title below).suffix }

theorem closed_nil (record : Record) (tableEnded : Bool) :
    closed record tableEnded [] = record := by
  cases tableEnded <;> simp [closed, Record.ofSection]

theorem closed_empty (title : Text) (below : List Fragment) :
    closed ⟨title, [], []⟩ false below = .ofSection title below := rfl

theorem closed_text (kind : BlockKind) (text : Text) (record : Record) (tableEnded : Bool)
    (below : List Fragment) :
    closed record tableEnded (.block kind text :: below) =
      closed (record.push tableEnded text) tableEnded below := by
  cases tableEnded <;> simp [closed, Record.push, Record.ofSection]

theorem closed_tableEnd (record : Record) (tableEnded : Bool) (below : List Fragment) :
    closed record tableEnded (.tableEnd :: below) = closed record true below := by
  cases tableEnded <;> simp [closed, Record.ofSection]

/-- What is left of a section goes to the open record, and the headings behind it make their own. -/
theorem finish_foldl_add_of_open (finished : List Record) (record : Record) (tableEnded : Bool)
    (fragments : List Fragment) :
    (fragments.foldl add ⟨finished, some record, tableEnded⟩).finish =
      finished ++ closed record tableEnded (fragments.takeWhile (!·.isHeading)) ::
        Record.ofFragments fragments := by
  induction fragments generalizing finished record tableEnded with
  | nil => rw [List.takeWhile_nil, closed_nil]; rfl
  | cons fragment fragments ih =>
    rw [List.foldl_cons]
    cases fragment with
    | tableEnd =>
      rw [add, ih, List.takeWhile_cons_of_pos rfl, closed_tableEnd]
      rfl
    | block kind text =>
      cases kind with
      | heading =>
        rw [add, ih, closed_empty, List.takeWhile_cons_of_neg (by simp [Fragment.isHeading]),
          closed_nil, Record.ofFragments]
        simp
      | paragraph =>
        rw [List.takeWhile_cons_of_pos rfl, closed_text]
        exact ih finished _ tableEnded
      | cell =>
        rw [List.takeWhile_cons_of_pos rfl, closed_text]
        exact ih finished _ tableEnded

/-- The records are had in one pass. Ends of tables in front of the first heading do nothing. -/
theorem finish_foldl_add (fragments : List Fragment) :
    (fragments.foldl add start).finish = Record.ofFragments fragments := by
  have hclosed (tableEnded : Bool) : (fragments.foldl add ⟨[], none, tableEnded⟩).finish =
      Record.ofFragments fragments := by
    induction fragments generalizing tableEnded with
    | nil => rfl
    | cons fragment fragments ih =>
      cases fragment with
      | tableEnd => exact ih true
      | block kind text =>
        cases kind with
        | heading => exact finish_foldl_add_of_open [] ⟨text, [], []⟩ false fragments
        | paragraph => exact ih tableEnded
        | cell => exact ih tableEnded
  exact hclosed false

end Segmenter

/-- The sections of a page, one for each heading, partition its fragments from the first heading on,
and the records are those of the sections: their titles are the texts of the headings in order, and
their texts are all texts from the first heading on in order. Pages that are put together at a
heading have their own records, so that no record depends on fragments outside its section. All of
this is had in one pass. -/
theorem Record.ofFragments_partitions (fragments : List Fragment) :
    (∀ records, ofFragments fragments = records ↔ Partitions fragments records) ∧
    (ofFragments fragments).map Record.title = fragments.filterMap Fragment.heading? ∧
    (ofFragments fragments).flatMap Record.texts =
      Page.texts (fragments.dropWhile (!·.isHeading)) ∧
    (∀ title rest, ofFragments (fragments ++ .block .heading title :: rest) =
      ofFragments fragments ++ ofFragments (.block .heading title :: rest)) ∧
    (fragments.foldl Segmenter.add .start).finish = ofFragments fragments := by
  refine ⟨fun _ ↦ ofFragments_eq_iff_partitions, map_title_ofFragments fragments,
    flatMap_texts_ofFragments fragments, fun title rest ↦ ?_, Segmenter.finish_foldl_add fragments⟩
  refine ofFragments_append fragments ?_
  rintro fragment ⟨⟩
  rfl

end ApiReference.Page
