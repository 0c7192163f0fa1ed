import ApiReference.Page.Record
import ApiReference.Proofs.Markup.Place
import ApiReference.Proofs.Page.CollectorState

/-!
# Elements without an end tag

The end of an element closes everything in it, so the last child of an element can do without an end
tag. A collector then meets one end in place of two, and the fragments of both elements become due
at once. It takes the block first and the table then, whatever their nesting. So the fragments are
those of the two ends unless a table is the last child of a block: then the end of the table should
come first and comes second.

## Main definitions

* `Collector.Inside`: a collector knows whether it is in a block and in a table.
* `Collector.behind`: the collector behind a forest at a place.
* `IsTableInBlock`: a table in a block, neither in another block nor in another table.

## Main results

* `Collector.close_close`: two ends in one.
* `fragments_unclosed`: the fragments of a page without the end tag of a last child.
-/

namespace ApiReference.Page

open Markup

namespace Collector

variable {c : Collector} {elements : OpenElements} {depth depth' : Nat}

/-! ### Two ends in one -/

/-- The depth before the open block. -/
def blockDepth (c : Collector) : Option Nat := c.openBlock.map OpenBlock.depth

@[simp] theorem blockDepth_extend (c : Collector) (content : Text) (fragments : List Fragment) :
    (c.extend content fragments).blockDepth = c.blockDepth := by
  simp [blockDepth, extend, append, Function.comp_def]

theorem blockDepth_enter (c : Collector) (name : Text) (depth : Nat) :
    (c.enter name depth).blockDepth =
      c.blockDepth.or ((BlockKind.ofElement? name).map fun _ ↦ depth) := by
  have hopen : (c.enter name depth).openBlock =
      c.openBlock.or ((BlockKind.ofElement? name).map (⟨·, depth, []⟩)) := rfl
  rw [blockDepth, hopen, Option.map_or, Option.map_map]
  rfl

theorem closeBlock_closeBlock (c : Collector) (h : depth ≤ depth') :
    (c.closeBlock depth').closeBlock depth = c.closeBlock depth := by
  obtain ⟨_ | block, tableDepth, collected⟩ := c
  · rfl
  · by_cases hblock : depth' ≤ block.depth
    · simp [closeBlock, hblock, h.trans hblock]
    · simp [closeBlock, hblock]

theorem closeTable_closeTable (c : Collector) (h : depth ≤ depth') :
    (c.closeTable depth').closeTable depth = c.closeTable depth := by
  obtain ⟨openBlock, _ | before, collected⟩ := c
  · rfl
  · by_cases htable : depth' ≤ before
    · simp [closeTable, htable, h.trans htable]
    · simp [closeTable, htable]

/-- A block and a table can end in any order when only one of the two is over. -/
theorem closeBlock_closeTable
    (h : ∀ block ∈ c.blockDepth, depth ≤ block → ∀ table ∈ c.tableDepth, table < depth') :
    (c.closeTable depth').closeBlock depth = (c.closeBlock depth).closeTable depth' := by
  obtain ⟨_ | block, _ | table, collected⟩ := c
  · rfl
  · by_cases htable : depth' ≤ table <;> simp [closeTable, closeBlock, htable]
  · by_cases hblock : depth ≤ block.depth <;> simp [closeTable, closeBlock, hblock]
  · by_cases hblock : depth ≤ block.depth
    · have htable : ¬ depth' ≤ table := Nat.not_le.2 (h _ rfl hblock _ rfl)
      simp [closeTable, closeBlock, hblock, htable]
    · by_cases htable : depth' ≤ table <;> simp [closeTable, closeBlock, hblock, htable]

/-- The end of an outer element is as good as that of an inner element and its own, unless the table
is inside a block that is over. -/
theorem close_close (hdepth : depth ≤ depth')
    (h : ∀ block ∈ c.blockDepth, depth ≤ block → ∀ table ∈ c.tableDepth, table ≤ block) :
    (c.close depth').close depth = c.close depth := by
  have hcomm : ((c.closeBlock depth').closeTable depth').closeBlock depth =
      (c.closeBlock depth).closeTable depth' := by
    rw [closeBlock_closeTable, closeBlock_closeBlock c hdepth]
    intro block hblock hover table htable
    rw [blockDepth, closeBlock_eq] at hblock
    obtain ⟨openBlock, hfilter, rfl⟩ := Option.map_eq_some_iff.1 hblock
    obtain ⟨hopen, hlt⟩ := Option.filter_eq_some_iff.1 hfilter
    rw [closeBlock_eq] at htable
    have hle := h openBlock.depth (Option.map_eq_some_iff.2 ⟨openBlock, hopen, rfl⟩) hover table
      htable
    exact hle.trans_lt (of_decide_eq_true hlt)
  calc (c.close depth').close depth
      = (((c.closeBlock depth').closeTable depth').closeBlock depth).closeTable depth := rfl
    _ = ((c.closeBlock depth).closeTable depth').closeTable depth := by rw [hcomm]
    _ = c.close depth := closeTable_closeTable _ hdepth

/-- A block is over before the table in it when both end at once, and behind it otherwise. -/
theorem close_of_table (block : OpenBlock) (collected : List Fragment) :
    let c : Collector := ⟨some block, some (block.depth + 1), collected⟩
    c.close block.depth = ⟨none, none, .tableEnd :: block.fragment :: collected⟩ ∧
      (c.close (block.depth + 1)).close block.depth =
        ⟨none, none, block.fragment :: .tableEnd :: collected⟩ := by
  simp [close, closeTable_eq, closeBlock_eq, Option.filter]

/-! ### Fragments that have been collected -/

theorem handle_collected (c : Collector) (step : Step) (before : List Fragment) :
    handle { c with collected := c.collected ++ before } step =
      { c.handle step with collected := (c.handle step).collected ++ before } := by
  obtain ⟨depth, event, after⟩ := step
  cases event with
  | opened => rfl
  | text => rfl
  | closed name =>
    have hclose : ∀ c : Collector, c.handle ⟨depth, .closed name, after⟩ =
        (c.closeBlock after).closeTable after := fun _ ↦ rfl
    simp [hclose, closeTable_eq, closeBlock_eq]

/-- The fragments that have been collected have no part in what comes next. -/
theorem finish_foldl_handle (steps : List Step) (c : Collector) (before : List Fragment) :
    (steps.foldl handle { c with collected := c.collected ++ before }).finish =
      before.reverse ++ (steps.foldl handle c).finish := by
  induction steps generalizing c with
  | nil => simp [finish]
  | cons step steps ih => rw [List.foldl_cons, handle_collected, ih, List.foldl_cons]

/-! ### Inside elements -/

/-- A collector of a reader with some open elements: it is in a block when one of the elements makes
a block, and in a table when one of them is a table. -/
structure Inside (c : Collector) (elements : OpenElements) : Prop
    extends c.Within elements.length where
  block_iff : c.openBlock = none ↔ ∀ name ∈ elements, ¬ IsBlock name
  table_iff : c.tableDepth = none ↔ ∀ name ∈ elements, name ≠ "table"

theorem inside_empty : empty.Inside [] :=
  ⟨within_empty, by simp [empty], by simp [empty]⟩

theorem Inside.extend (h : c.Inside elements) (content : Text) (fragments : List Fragment) :
    (c.extend content fragments).Inside elements where
  toWithin := h.toWithin.extend content fragments
  block_iff := Option.map_eq_none_iff.trans h.block_iff
  table_iff := h.table_iff

theorem Inside.enter (h : c.Inside elements) (name : Text) :
    (c.enter name elements.length).Inside (name :: elements) where
  toWithin := h.toWithin.enter name
  block_iff := by
    rw [Collector.enter, Option.or_eq_none_iff, h.block_iff, List.forall_mem_cons, and_comm,
      Option.map_eq_none_iff, IsBlock, Option.not_isSome_iff_eq_none]
  table_iff := by
    have htable : (if name = "table" then some elements.length else none) = none ↔
        name ≠ "table" :=
      ite_eq_right_iff.trans (imp_congr_right fun _ ↦ iff_false_intro (Option.some_ne_none _))
    rw [Collector.enter, Option.or_eq_none_iff, h.table_iff, htable, List.forall_mem_cons, and_comm]

/-- The collector behind a forest at a place. -/
def behind (place : Place) (f : Forest) : Collector :=
  (place.leadSteps ++ f.steps place.length).foldl handle empty

/-- A collector comes to a forest in an element from what is before the element. -/
theorem exists_behind_cons_eq {e : Enclosure} {outer : Place} {f : Forest}
    (hc : (behind outer e.before).Inside outer.names)
    (hf : f.WellFormed (Place.names (e :: outer))) :
    ∃ fragments, behind (e :: outer) f =
      ((behind outer e.before).enter e.name outer.length).extend f.content fragments := by
  have hwithin : (behind outer e.before).Within outer.length :=
    Place.length_names outer ▸ hc.toWithin
  have hbehind : behind (e :: outer) f = (f.steps (outer.length + 1)).foldl handle
      ((behind outer e.before).enter e.name outer.length) := by
    rw [behind, List.foldl_append, Place.leadSteps, List.foldl_append, ← behind]
    rfl
  exact ⟨_, hbehind.trans (foldl_handle_steps hf (hwithin.enter e.name))⟩

/-- A collector at a place is inside the elements around the place. -/
theorem inside_behind {place : Place} (hplace : place.WellFormed) {f : Forest}
    (hf : f.WellFormed place.names) : (behind place f).Inside place.names := by
  induction place generalizing f with
  | nil =>
    have hbehind : behind [] f = _ := foldl_handle_steps hf within_empty
    exact hbehind ▸ inside_empty.extend _ _
  | cons e outer ih =>
    obtain ⟨hbefore, -, -, -, houter⟩ := hplace
    have hinside := ih houter hbefore
    obtain ⟨fragments, hbehind⟩ := exists_behind_cons_eq hinside hf
    rw [hbehind, ← Place.length_names outer]
    exact (hinside.enter e.name).extend f.content fragments

/-! ### A child of an element -/

variable {parent child : Text}

/-- A collector that is inside an element and a child of the element, behind some content of
both. -/
def enterBoth (c : Collector) (depth : Nat) (parent before : Text) (earlier : List Fragment)
    (child content : Text) (later : List Fragment) : Collector :=
  (((c.enter parent depth).extend before earlier).enter child (depth + 1)).extend content later

theorem blockDepth_enterBoth (c : Collector) (depth : Nat) (parent before : Text)
    (earlier : List Fragment) (child content : Text) (later : List Fragment) :
    (c.enterBoth depth parent before earlier child content later).blockDepth =
      (c.blockDepth.or ((BlockKind.ofElement? parent).map fun _ ↦ depth)).or
        ((BlockKind.ofElement? child).map fun _ ↦ depth + 1) := by
  rw [enterBoth, blockDepth_extend, blockDepth_enter, blockDepth_extend, blockDepth_enter]

theorem tableDepth_enterBoth (c : Collector) (depth : Nat) (parent before : Text)
    (earlier : List Fragment) (child content : Text) (later : List Fragment) :
    (c.enterBoth depth parent before earlier child content later).tableDepth =
      (c.tableDepth.or (if parent = "table" then some depth else none)).or
        (if child = "table" then some (depth + 1) else none) := rfl

/-- The table is inside the block that is over with the parent only when the child is a table, the
parent makes a block, and neither of the two is in a block or a table. -/
theorem table_le_block_enterBoth (hc : c.Within depth)
    (h : ¬ (c.openBlock = none ∧ c.tableDepth = none ∧ IsBlock parent ∧ child = "table"))
    (before content : Text) (earlier later : List Fragment) :
    let c' := c.enterBoth depth parent before earlier child content later
    ∀ block ∈ c'.blockDepth, depth ≤ block → ∀ table ∈ c'.tableDepth, table ≤ block := by
  intro c' block hblock hover table htable
  rw [blockDepth_enterBoth] at hblock
  rw [tableDepth_enterBoth] at htable
  rcases Option.or_eq_some_iff.1 htable with htable | ⟨hnoTable, htable⟩
  · -- The table is not the child, so it is no further inside than the parent.
    rcases Option.or_eq_some_iff.1 htable with htable | ⟨-, htable⟩
    · exact (hc.table table htable).le.trans hover
    · obtain ⟨-, hparent⟩ := Option.ite_none_right_eq_some.1 htable
      exact Option.some.inj hparent ▸ hover
  · obtain ⟨hchild, hdepth⟩ := Option.ite_none_right_eq_some.1 htable
    have hnoTable := (Option.or_eq_none_iff.1 hnoTable).1
    rcases Option.or_eq_some_iff.1 hblock with hblock | ⟨-, hblock⟩
    · exfalso
      rcases Option.or_eq_some_iff.1 hblock with hblock | ⟨hnoBlock, hblock⟩
      · obtain ⟨openBlock, hopen, rfl⟩ := Option.map_eq_some_iff.1 hblock
        exact absurd (hc.block openBlock hopen) (Nat.not_lt.2 hover)
      · obtain ⟨kind, hkind, -⟩ := Option.map_eq_some_iff.1 hblock
        have hparent : IsBlock parent := Option.isSome_of_eq_some hkind
        exact h ⟨Option.map_eq_none_iff.1 hnoBlock, hnoTable, hparent, hchild⟩
    · obtain ⟨-, -, rfl⟩ := Option.map_eq_some_iff.1 hblock
      exact (Option.some.inj hdepth).ge

/-- A collector in a table that is the child of a block. -/
theorem enterBoth_of_table {kind : BlockKind} (hblock : c.openBlock = none)
    (htable : c.tableDepth = none) (hkind : BlockKind.ofElement? parent = some kind) (depth : Nat)
    (before content : Text) (earlier later : List Fragment) :
    ∃ collected, c.enterBoth depth parent before earlier "table" content later =
      ⟨some ⟨kind, depth, before ++ content⟩, some (depth + 1), collected⟩ := by
  have hnone : BlockKind.ofElement? "table" = none := by decide
  have hparent : parent ≠ "table" := by
    rintro rfl
    exact Option.some_ne_none kind (hkind.symm.trans hnone)
  have hdepth := tableDepth_enterBoth c depth parent before earlier "table" content later
  rw [htable, if_neg hparent, if_pos rfl] at hdepth
  have hopen : (c.enterBoth depth parent before earlier "table" content later).openBlock =
      some ⟨kind, depth, before ++ content⟩ := by
    change Option.map _ (Option.or (Option.map _ (Option.or c.openBlock
      (Option.map _ (BlockKind.ofElement? parent)))) _) = _
    rw [hblock, hkind]
    rfl
  generalize c.enterBoth depth parent before earlier "table" content later = c' at hopen hdepth
  obtain ⟨openBlock, tableDepth, collected⟩ := c'
  exact ⟨collected, congrArg₂ (Collector.mk · · collected) hopen hdepth⟩

/-- The collector at the end of a child of an element. -/
theorem exists_behind_eq_enterBoth {child parent : Enclosure} {outer : Place} {children : Forest}
    (hplace : Place.WellFormed (child :: parent :: outer))
    (hchildren : children.WellFormed (Place.names (child :: parent :: outer))) :
    ∃ (c : Collector) (earlier later : List Fragment), c.Inside outer.names ∧
      behind (child :: parent :: outer) children =
        c.enterBoth outer.length parent.name child.before.content earlier child.name
          children.content later := by
  obtain ⟨hbefore, -, -, -, hparent⟩ := hplace
  obtain ⟨later, hlater⟩ := exists_behind_cons_eq (inside_behind hparent hbefore) hchildren
  obtain ⟨houterBefore, -, -, -, houter⟩ := hparent
  have hinside := inside_behind houter houterBefore
  obtain ⟨earlier, hearlier⟩ := exists_behind_cons_eq hinside hbefore
  rw [hearlier] at hlater
  exact ⟨_, earlier, later, hinside, hlater⟩

end Collector

/-! ### A last child without its end tag -/

/-- The fragments of a page are collected from any place on. -/
theorem fragments_lead {place : Place} (hplace : place.WellFormed) {f : Forest}
    (hf : f.WellFormed place.names) {rest : Text} (hrest : StopsText rest) :
    fragments (place.lead ++ (f.markup ++ rest)) =
      ((Reader.steps ⟨rest, place.names, []⟩).foldl Collector.handle
        (Collector.behind place f)).finish := by
  rw [fragments, collect, Reader.foldSteps_eq_foldl, Reader.ofMarkup,
    Reader.steps_lead_append hplace, Reader.steps_markup_append hf hrest, Place.length_names,
    ← List.append_assoc, List.foldl_append, ← Collector.behind]

section LastChild

variable {child parent : Enclosure} {outer : Place} {children : Forest}

/-- The two ends of a last child and its parent, or one in their place, and the same steps
behind. -/
theorem exists_fragments_eq (hplace : Place.WellFormed (child :: parent :: outer))
    (hchildren : children.WellFormed (Place.names (child :: parent :: outer)))
    (hlast : child.behind = .nil) (hname : child.name ≠ parent.name) :
    ∃ steps : List Step,
      let c := Collector.behind (child :: parent :: outer) children
      fragments (Place.fill (child :: parent :: outer) children).markup =
          (steps.foldl Collector.handle
            ((c.close (outer.length + 1)).close outer.length)).finish ∧
        fragments (Place.unclosed child (parent :: outer) children) =
          (steps.foldl Collector.handle (c.close outer.length)).finish := by
  have ⟨_, hchild, _, _, _, hparent, _⟩ := hplace
  have hstop : ∀ (e : Enclosure) (outer : Place), StopsText (Place.trail (e :: outer)) := by
    simp [StopsText, Place.trail, EndTag.markup]
  have hunclosed : Place.unclosed child (parent :: outer) children =
      Place.lead (child :: parent :: outer) ++
        (children.markup ++ Place.trail (parent :: outer)) := by
    rw [Place.unclosed, hlast]
    rfl
  have hbehind : child.behind.markup ++ Place.trail (parent :: outer) =
      Place.trail (parent :: outer) := by
    rw [hlast]
    rfl
  have hends := Reader.steps_trail hchild [] List.not_mem_nil (parent :: outer)
  have hend := Reader.steps_trail hparent [] List.not_mem_nil outer
  have hboth := Reader.steps_trail hparent [child.name]
    (mt List.mem_singleton.1 hname.symm) outer
  refine ⟨Reader.steps ⟨parent.behind.markup ++ outer.trail, outer.names, []⟩, ?_, ?_⟩
  · rw [Place.markup_fill, fragments_lead hplace hchildren (hstop child _)]
    rw [List.nil_append] at hends hend
    rw [hends, hbehind, hend]
    rfl
  · have hnames : Place.names (child :: parent :: outer) =
        [child.name] ++ Place.names (parent :: outer) := rfl
    rw [hunclosed, fragments_lead hplace hchildren (hstop parent _), hnames, hboth]
    rfl

/-- A table in a block, neither in another block nor in another table. -/
structure IsTableInBlock (child parent : Enclosure) (outer : Place) : Prop where
  child_eq : child.name = "table"
  parent_isBlock : IsBlock parent.name
  not_block : ∀ name ∈ outer.names, ¬ IsBlock name
  not_table : ∀ name ∈ outer.names, name ≠ "table"

/-- The end tag of a last child can be left out, unless the child is a table in a block. Without its
end tag the end of such a table comes behind the block, and with it before. -/
theorem fragments_unclosed (child parent : Enclosure) (outer : Place) (children : Forest)
    (h : (Place.fill (child :: parent :: outer) children).WellFormed [])
    (hlast : child.behind = .nil) (hname : child.name ≠ parent.name) :
    let closed := (Place.fill (child :: parent :: outer) children).markup
    let unclosed := Place.unclosed child (parent :: outer) children
    (¬ IsTableInBlock child parent outer →
      fragments unclosed = fragments closed ∧ records unclosed = records closed) ∧
    (IsTableInBlock child parent outer → ∃ kind before behind,
      let block := Fragment.block kind (Text.trim (child.before.content ++ children.content))
      BlockKind.ofElement? parent.name = some kind ∧
      fragments closed = before ++ .tableEnd :: block :: behind ∧
      fragments unclosed = before ++ block :: .tableEnd :: behind) := by
  intro closed unclosed
  obtain ⟨hplace, hchildren⟩ := Place.wellFormed_of_fill h
  obtain ⟨steps, hclosed, hunclosed⟩ := exists_fragments_eq hplace hchildren hlast hname
  obtain ⟨c, earlier, later, hinside, hbehind⟩ :=
    Collector.exists_behind_eq_enterBoth hplace hchildren
  rw [hbehind] at hclosed hunclosed
  have hwithin : c.Within outer.length := Place.length_names outer ▸ hinside.toWithin
  constructor
  · intro hnot
    have hfragments : fragments unclosed = fragments closed := by
      rw [hclosed, hunclosed, Collector.close_close (Nat.le_succ _)]
      refine Collector.table_le_block_enterBoth hwithin ?_ _ _ _ _
      rintro ⟨hblock, htable, hparent, hchild⟩
      exact hnot ⟨hchild, hparent, hinside.block_iff.1 hblock, hinside.table_iff.1 htable⟩
    exact ⟨hfragments, congrArg Record.ofFragments hfragments⟩
  · rintro ⟨hchild, hparent, hblock, htable⟩
    obtain ⟨kind, hkind⟩ := Option.isSome_iff_exists.1 hparent
    obtain ⟨collected, hat⟩ := Collector.enterBoth_of_table
      (hinside.block_iff.2 hblock) (hinside.table_iff.2 htable) hkind outer.length
      child.before.content children.content earlier later
    rw [hchild, hat] at hclosed hunclosed
    obtain ⟨htogether, hinTurn⟩ := Collector.close_of_table
      ⟨kind, outer.length, child.before.content ++ children.content⟩ collected
    rw [hinTurn] at hclosed
    rw [htogether] at hunclosed
    -- What is collected behind the two ends is the same, and stands behind what was collected.
    have hfinish := Collector.finish_foldl_handle steps Collector.empty
    refine ⟨kind, collected.reverse, (steps.foldl Collector.handle Collector.empty).finish, hkind,
      ?_, ?_⟩
    · rw [hclosed]
      refine (hfinish _).trans ?_
      simp [OpenBlock.fragment]
    · rw [hunclosed]
      refine (hfinish _).trans ?_
      simp [OpenBlock.fragment]

end LastChild

/-- The end of a table takes its last cell with it, as the end of the cell would. -/
theorem fragments_of_unclosed_cell :
    fragments "<table><td>a</table>" = fragments "<table><td>a</td></table>" ∧
      fragments "<table><td>a</td></table>" = [.block .cell "a", .tableEnd] := by
  let table : Enclosure := ⟨.nil, ⟨"table", [], false⟩, { name := "table" }, .nil⟩
  let cell : Enclosure := ⟨.nil, ⟨"td", [], false⟩, { name := "td" }, .nil⟩
  have hnot : ¬ IsTableInBlock cell table [] := fun h ↦ absurd h.child_eq (by decide)
  have hclosed : (Place.fill [cell, table] (.leaf (.text "a") .nil)).markup =
      "<table><td>a</td></table>" := by decide
  have hunclosed : Place.unclosed cell [table] (.leaf (.text "a") .nil) =
      "<table><td>a</table>" := by decide
  rw [← hclosed, ← hunclosed]
  refine ⟨?_, by decide +kernel⟩
  exact ((fragments_unclosed cell table [] (.leaf (.text "a") .nil) (by decide) rfl
    (by decide)).1 hnot).1

/-- A paragraph comes before the end of a table in it when the table has no end tag, and behind it
otherwise. So the paragraph is in the body of its record, or not. -/
theorem fragments_of_unclosed_table :
    let paragraph : Enclosure := ⟨.nil, ⟨"p", [], false⟩, { name := "p" }, .nil⟩
    let table : Enclosure :=
      ⟨.leaf (.text "a") .nil, ⟨"table", [], false⟩, { name := "table" }, .nil⟩
    (Place.fill [table, paragraph] .nil).WellFormed [] ∧
      (Place.fill [table, paragraph] .nil).markup = "<p>a<table></table></p>" ∧
      Place.unclosed table [paragraph] .nil = "<p>a<table></p>" ∧
      fragments "<p>a<table></table></p>" = [.tableEnd, .block .paragraph "a"] ∧
      fragments "<p>a<table></p>" = [.block .paragraph "a", .tableEnd] ∧
      records "<h4>A</h4><p>a<table></table></p>" = [⟨"A", [], ["a".toList]⟩] ∧
      records "<h4>A</h4><p>a<table></p>" = [⟨"A", ["a".toList], []⟩] := by
  decide +kernel

end ApiReference.Page
