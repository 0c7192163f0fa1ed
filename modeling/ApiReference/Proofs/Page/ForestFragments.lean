import ApiReference.Page.Fragment
import ApiReference.Proofs.Markup.ForestReading

/-!
# The fragments of a forest

The fragments of a page are collected without a tree, from the depths of the reader alone. When the
page is a forest they are what the tree says: a block that is in no other block has its text as a
fragment, a table that is in no other table has its end, and both come behind everything that comes
from inside the element.

The collector cannot see that it is in a block or a table; it has the depths before them. What ties
the two together is that these depths are smaller than the depth of the reader for as long as the
elements are open.

## Main definitions

* `Forest.content`: all the text in a forest.
* `Forest.fragments`: the fragments of a forest, by recursion on the forest.
* `Collector.Within`: the block and the table of a collector are open at a depth.

## Main results

* `Collector.foldl_handle_steps`: what a forest adds to a collector.
* `fragments_markup`: the fragments of a written forest.
-/

namespace ApiReference.Markup

open Page

/-- The text in a leaf. -/
def Leaf.content : Leaf → Text
  | text characters => characters
  | raw _ content _ => content
  | _ => []

/-- All the text in a forest. -/
def Forest.content : Forest → Text
  | nil => []
  | leaf first rest => first.content ++ rest.content
  | element _ children _ rest => children.content ++ rest.content

/-- The fragments that the end of an element makes, which depend on whether the element is in a
block and in a table. -/
def closingFragments (inBlock inTable : Bool) (name content : Text) : List Fragment :=
  (if inBlock then []
    else (BlockKind.ofElement? name).toList.map (.block · (Text.trim content))) ++
  if inTable = false ∧ name = "table" then [.tableEnd] else []

/-- The fragments of a leaf. Only an element can have some. -/
def Leaf.fragments (inBlock inTable : Bool) : Leaf → List Fragment
  | lone tag => closingFragments inBlock inTable (Text.asciiLower tag.name) []
  | _ => []

/-- The fragments of a forest in a block or not and in a table or not. Those of an element come
behind those from inside it. -/
def Forest.fragments : Forest → Bool → Bool → List Fragment
  | nil, _, _ => []
  | leaf first rest, inBlock, inTable =>
    first.fragments inBlock inTable ++ rest.fragments inBlock inTable
  | element tag children _ rest, inBlock, inTable =>
    let name := Text.asciiLower tag.name
    children.fragments (inBlock || (BlockKind.ofElement? name).isSome)
        (inTable || name = "table") ++
      closingFragments inBlock inTable name children.content ++ rest.fragments inBlock inTable

/-- The end of a block that is in no other block makes the fragment of the block. -/
theorem closingFragments_of_block {name : Text} {kind : BlockKind}
    (hkind : BlockKind.ofElement? name = some kind) (inTable : Bool) (content : Text) :
    closingFragments false inTable name content = [.block kind (Text.trim content)] := by
  have hname : name ≠ "table" := by
    rintro rfl
    cases hkind
  rw [closingFragments, hkind, if_neg fun h : inTable = false ∧ name = "table" ↦ hname h.2]
  rfl

/-! ### Elements that make nothing -/

/-- Void elements and raw-text elements make neither blocks nor tables. -/
theorem inline_of_mem : ∀ name ∈ voidElements ++ rawTextElements,
    BlockKind.ofElement? name = none ∧ name ≠ "table" := by
  decide

theorem closingFragments_of_inline {name : Text} (hblock : BlockKind.ofElement? name = none)
    (htable : name ≠ "table") (inBlock inTable : Bool) (content : Text) :
    closingFragments inBlock inTable name content = [] := by
  rw [closingFragments, hblock, if_neg fun h : inTable = false ∧ name = "table" ↦ htable h.2]
  simp

theorem Forest.fragments_element_of_inline {tag : StartTag}
    (hblock : BlockKind.ofElement? (Text.asciiLower tag.name) = none)
    (htable : Text.asciiLower tag.name ≠ "table") (children : Forest) (endTag : EndTag)
    (rest : Forest) (inBlock inTable : Bool) :
    (element tag children endTag rest).fragments inBlock inTable =
      children.fragments inBlock inTable ++ rest.fragments inBlock inTable := by
  rw [fragments, closingFragments_of_inline hblock htable, hblock, decide_eq_false htable,
    Option.isSome_none, Bool.or_false, Bool.or_false, List.append_nil]

end ApiReference.Markup

namespace ApiReference.Page

open Markup

namespace Collector

variable {c : Collector} {depth : Nat}

/-- The block and the table that are open were opened at depths below the given one. -/
structure Within (c : Collector) (depth : Nat) : Prop where
  block : ∀ b ∈ c.openBlock, b.depth < depth
  table : ∀ before ∈ c.tableDepth, before < depth

/-- A collector behind some content of its open block and some more fragments. -/
def extend (c : Collector) (content : Text) (fragments : List Fragment) : Collector :=
  { c.append content with collected := fragments.reverse ++ c.collected }

/-- A collector behind the end of an element. -/
def close (c : Collector) (depth : Nat) : Collector := (c.closeBlock depth).closeTable depth

@[simp] theorem extend_nil (c : Collector) : c.extend [] [] = c := by
  obtain ⟨_ | block, tableDepth, collected⟩ := c <;> simp [extend, append]

@[simp] theorem extend_extend (c : Collector) (content content' : Text)
    (fragments fragments' : List Fragment) :
    (c.extend content fragments).extend content' fragments' =
      c.extend (content ++ content') (fragments ++ fragments') := by
  obtain ⟨_ | block, tableDepth, collected⟩ := c <;> simp [extend, append]

@[simp] theorem isSome_openBlock_extend (c : Collector) (content : Text)
    (fragments : List Fragment) :
    (c.extend content fragments).openBlock.isSome = c.openBlock.isSome := by
  simp [extend, append]

@[simp] theorem tableDepth_extend (c : Collector) (content : Text) (fragments : List Fragment) :
    (c.extend content fragments).tableDepth = c.tableDepth := rfl

theorem within_empty : empty.Within 0 :=
  ⟨fun _ h ↦ absurd h (Option.not_mem_none _), fun _ h ↦ absurd h (Option.not_mem_none _)⟩

theorem finish_extend_empty (content : Text) (fragments : List Fragment) :
    (empty.extend content fragments).finish = fragments := by
  simp [finish, Collector.extend, append, empty]

theorem Within.extend (h : c.Within depth) (content : Text) (fragments : List Fragment) :
    (c.extend content fragments).Within depth where
  block := by
    intro b hb
    obtain ⟨block, hblock, rfl⟩ := Option.map_eq_some_iff.1 hb
    exact h.block block hblock
  table := h.table

/-- The block and the table of an element are open inside the element. -/
theorem Within.enter (h : c.Within depth) (name : Text) :
    (c.enter name depth).Within (depth + 1) where
  block := by
    intro b hb
    rcases Option.or_eq_some_iff.1 hb with hb | ⟨-, hb⟩
    · exact Nat.lt_succ_of_lt (h.block b hb)
    · obtain ⟨kind, -, rfl⟩ := Option.map_eq_some_iff.1 hb
      exact Nat.lt_succ_self depth
  table := by
    intro before hbefore
    rcases Option.or_eq_some_iff.1 hbefore with hbefore | ⟨-, hbefore⟩
    · exact Nat.lt_succ_of_lt (h.table before hbefore)
    · split at hbefore
      · exact Option.some.inj hbefore ▸ Nat.lt_succ_self depth
      · exact absurd hbefore (by simp)

/-- Nothing is over at a depth above that of the open block and the open table. -/
theorem Within.close (h : c.Within depth) : c.close depth = c := by
  obtain ⟨openBlock, tableDepth, collected⟩ := c
  have hblock : Collector.closeBlock ⟨openBlock, tableDepth, collected⟩ depth =
      ⟨openBlock, tableDepth, collected⟩ := by
    cases openBlock with
    | none => rfl
    | some block => exact if_neg (Nat.not_le.2 (h.block block rfl))
  rw [Collector.close, hblock]
  cases tableDepth with
  | none => rfl
  | some before => exact if_neg (Nat.not_le.2 (h.table before rfl))

/-- An element that makes neither a block nor a table is passed over. -/
theorem enter_of_inline {name : Text} (hblock : BlockKind.ofElement? name = none)
    (htable : name ≠ "table") (depth : Nat) : c.enter name depth = c := by
  rw [Collector.enter, hblock, if_neg htable, Option.or_none, Option.map_none, Option.or_none]

theorem isSome_openBlock_enter (c : Collector) (name : Text) (depth : Nat) :
    (c.enter name depth).openBlock.isSome =
      (c.openBlock.isSome || (BlockKind.ofElement? name).isSome) := by
  rw [Collector.enter, Option.isSome_or, Option.isSome_map]

theorem isSome_tableDepth_enter (c : Collector) (name : Text) (depth : Nat) :
    (c.enter name depth).tableDepth.isSome =
      (c.tableDepth.isSome || decide (name = "table")) := by
  rw [Collector.enter, Option.isSome_or]
  by_cases hname : name = "table"
  · rw [if_pos hname, decide_eq_true hname]
    rfl
  · rw [if_neg hname, decide_eq_false hname]
    rfl

theorem closeBlock_extend_enter (h : c.Within depth) (name content : Text)
    (fragments : List Fragment) :
    ((c.enter name depth).extend content fragments).closeBlock depth =
      { c.extend content (fragments ++ if c.openBlock.isSome then [] else
          (BlockKind.ofElement? name).toList.map (.block · (Text.trim content))) with
        tableDepth := (c.enter name depth).tableDepth } := by
  generalize hinside : c.enter name depth = inside
  have hblock : inside.openBlock =
      c.openBlock.or ((BlockKind.ofElement? name).map (⟨·, depth, []⟩)) := hinside ▸ rfl
  have hcollected : inside.collected = c.collected := hinside ▸ rfl
  obtain ⟨innerBlock, innerTable, innerCollected⟩ := inside
  obtain ⟨openBlock, tableDepth, collected⟩ := c
  obtain rfl : innerBlock = _ := hblock
  obtain rfl : innerCollected = collected := hcollected
  cases openBlock with
  | none =>
    cases hkind : BlockKind.ofElement? name with
    | none => simp [extend, append, closeBlock]
    | some kind => simp [extend, append, closeBlock, OpenBlock.fragment]
  | some block =>
    have hopen : ¬ depth ≤ block.depth := Nat.not_le.2 (h.block block rfl)
    simp [extend, append, closeBlock, hopen]

theorem closeTable_enter (h : c.Within depth) (name : Text) (openBlock : Option OpenBlock)
    (collected : List Fragment) :
    Collector.closeTable ⟨openBlock, (c.enter name depth).tableDepth, collected⟩ depth =
      ⟨openBlock, c.tableDepth,
        (if c.tableDepth.isSome = false ∧ name = "table" then [.tableEnd] else []) ++
          collected⟩ := by
  obtain ⟨openBlock', tableDepth, collected'⟩ := c
  cases tableDepth with
  | none =>
    by_cases hname : name = "table"
    · rw [Collector.enter, if_pos hname, if_pos ⟨rfl, hname⟩]
      exact if_pos (Nat.le_refl depth)
    · rw [Collector.enter, if_neg hname, if_neg fun h ↦ hname h.2]
      rfl
  | some before =>
    have hopen : ¬ depth ≤ before := Nat.not_le.2 (h.table before rfl)
    rw [if_neg fun h ↦ Bool.noConfusion h.1]
    exact if_neg hopen

/-- The end of an element makes its fragments and leaves what is around the element. -/
theorem close_extend_enter (h : c.Within depth) (name content : Text) (fragments : List Fragment) :
    ((c.enter name depth).extend content fragments).close depth =
      c.extend content (fragments ++
        closingFragments c.openBlock.isSome c.tableDepth.isSome name content) := by
  rw [Collector.close, closeBlock_extend_enter h, closeTable_enter h, closingFragments]
  by_cases htable : c.tableDepth.isSome = false ∧ name = "table"
  · rw [if_pos htable]
    simp [extend, append]
  · rw [if_neg htable]
    simp [extend, append]

/-! ### Steps of a forest -/

theorem foldl_handle_leaf {leaf : Leaf} {enclosing : List Text}
    (hleaf : leaf.WellFormed enclosing) (hc : c.Within depth) :
    (leaf.events.map (⟨depth, ·, depth⟩)).foldl handle c =
      c.extend leaf.content (leaf.fragments c.openBlock.isSome c.tableDepth.isSome) := by
  cases leaf with
  | text characters => rfl
  | comment content => exact (extend_nil c).symm
  | declaration content => exact (extend_nil c).symm
  | instruction content => exact (extend_nil c).symm
  | lone tag =>
    cases hvoid : isVoid (Text.asciiLower tag.name) with
    | true =>
      have hmem : Text.asciiLower tag.name ∈ voidElements ++ rawTextElements :=
        List.mem_append_left _ (List.contains_iff_mem.1 hvoid)
      obtain ⟨hblock, htable⟩ := inline_of_mem _ hmem
      rw [Leaf.events, if_pos hvoid, Leaf.fragments, closingFragments_of_inline hblock htable]
      exact (enter_of_inline hblock htable depth).trans (extend_nil c).symm
    | false =>
      have hclose := close_extend_enter hc (Text.asciiLower tag.name) [] []
      rw [extend_nil, List.nil_append] at hclose
      rw [Leaf.events, if_neg (Bool.eq_false_iff.1 hvoid)]
      exact hclose
  | raw tag content endTag =>
    have hmem : Text.asciiLower tag.name ∈ voidElements ++ rawTextElements :=
      List.mem_append_right _ (List.contains_iff_mem.1 hleaf.2.1)
    obtain ⟨hblock, htable⟩ := inline_of_mem _ hmem
    have hopening : c.handle ⟨depth, tag.opening, depth⟩ = c := enter_of_inline hblock htable depth
    have hclosing : (c.extend content []).handle ⟨depth, endTag.closing, depth⟩ =
        c.extend content [] := (hc.extend content []).close
    cases content with
    | nil =>
      rw [extend_nil] at hclosing
      simp [Leaf.events, Leaf.content, Leaf.fragments, hopening, hclosing]
    | cons character content =>
      have htext : c.handle ⟨depth, .text (character :: content), depth⟩ =
          c.extend (character :: content) [] := rfl
      simp [Leaf.events, Leaf.content, Leaf.fragments, hopening, htext, hclosing]
  | stray endTag => exact hc.close.trans (extend_nil c).symm

/-- What a forest adds to a collector: its content to the open block, and its fragments. -/
theorem foldl_handle_steps {f : Forest} {enclosing : List Text} (hf : f.WellFormed enclosing)
    (hc : c.Within depth) :
    (f.steps depth).foldl handle c =
      c.extend f.content (f.fragments c.openBlock.isSome c.tableDepth.isSome) := by
  induction f generalizing c depth enclosing with
  | nil => exact (extend_nil c).symm
  | leaf first rest ih =>
    rw [Forest.steps, List.foldl_append, foldl_handle_leaf hf.1 hc, ih hf.2.2 (hc.extend _ _)]
    simp [Forest.content, Forest.fragments]
  | element tag children endTag rest ihChildren ih =>
    obtain ⟨-, -, -, hchildren, hrest⟩ := hf
    have hopening : c.handle ⟨depth, tag.opening, depth + 1⟩ =
        c.enter (Text.asciiLower tag.name) depth := rfl
    have hclosing : ∀ c : Collector, c.handle ⟨depth + 1, endTag.closing, depth⟩ =
        c.close depth := fun _ ↦ rfl
    rw [Forest.steps, List.cons_append, List.foldl_cons, List.foldl_append, List.foldl_cons,
      hopening, hclosing, ihChildren hchildren (hc.enter _), close_extend_enter hc,
      ih hrest (hc.extend _ _), isSome_openBlock_enter, isSome_tableDepth_enter]
    simp [Forest.content, Forest.fragments]

end Collector

/-- The fragments of a written forest are those that the forest has as a tree. -/
theorem fragments_markup {f : Forest} (h : f.WellFormed []) :
    fragments f.markup = f.fragments false false := by
  rw [fragments, collect, Reader.foldSteps_eq_foldl, Reader.steps_ofMarkup h,
    Collector.foldl_handle_steps h Collector.within_empty]
  exact Collector.finish_extend_empty _ _

end ApiReference.Page
