import ApiReference.Proofs.Page.ForestFragments

/-!
# The outline of a forest

Most of a page leaves no trace in its fragments: inline elements, comments, declarations and end
tags that close nothing only divide the texts around them. What is left without them is the outline
of a forest, which has the characters of all texts and the places where blocks and tables start and
end.
Pages with one outline have the same fragments.

## Main definitions

* `Mark`, `Forest.outline`: the outline of a forest.
* `Collector.mark`: the fragments are collected from an outline too.

## Main results

* `fragments_eq_of_outline_eq`: the outline decides the fragments.
* `fragments_markup_eq_flattening`: the fragments of a page are those of its forest, and pages with
  one outline have the same.
-/

namespace ApiReference.Page

open Markup

/-- A part of an outline: a character of a text, or the start or the end of a block or table. -/
inductive Mark where
  | character (c : Char)
  | opened (name : Text)
  | closed
deriving DecidableEq, Repr

/-- Whether an element makes a block or a table. -/
def isStructural (name : Text) : Bool := (BlockKind.ofElement? name).isSome || name = "table"

theorem isStructural_eq_false_iff {name : Text} :
    isStructural name = false ↔ BlockKind.ofElement? name = none ∧ name ≠ "table" := by
  rw [isStructural, Bool.or_eq_false_iff, Option.isSome_eq_false_iff, Option.isNone_iff_eq_none,
    decide_eq_false_iff_not]

/-- A collector at a depth, behind a mark. Only blocks and tables count for the depth. -/
def Collector.mark : Collector × Nat → Mark → Collector × Nat
  | (c, depth), .character character => (c.append [character], depth)
  | (c, depth), .opened name => (c.enter name depth, depth + 1)
  | (c, depth), .closed => (c.close (depth - 1), depth - 1)

end ApiReference.Page

namespace ApiReference.Markup

open Page

/-- The outline of a leaf. -/
def Leaf.outline : Leaf → List Mark
  | lone tag =>
    if isStructural (Text.asciiLower tag.name) then [.opened (Text.asciiLower tag.name), .closed]
    else []
  | leaf => leaf.content.map .character

/-- The outline of a forest. -/
def Forest.outline : Forest → List Mark
  | nil => []
  | leaf first rest => first.outline ++ rest.outline
  | element tag children _ rest =>
    if isStructural (Text.asciiLower tag.name) then
      .opened (Text.asciiLower tag.name) :: children.outline ++ .closed :: rest.outline
    else children.outline ++ rest.outline

end ApiReference.Markup

namespace ApiReference.Page

open Markup

namespace Collector

variable {c : Collector} {depth : Nat}

theorem foldl_mark_characters (c : Collector) (depth : Nat) (content : Text) :
    (content.map Mark.character).foldl mark (c, depth) = (c.extend content [], depth) := by
  induction content generalizing c with
  | nil => rw [extend_nil]; rfl
  | cons character content ih =>
    have hcharacter : mark (c, depth) (.character character) =
        (c.extend [character] [], depth) := rfl
    rw [List.map_cons, List.foldl_cons, hcharacter, ih, extend_extend]
    rfl

theorem foldl_mark_leaf (leaf : Leaf) (hc : c.Within depth) :
    leaf.outline.foldl mark (c, depth) =
      (c.extend leaf.content (leaf.fragments c.openBlock.isSome c.tableDepth.isSome), depth) := by
  cases leaf with
  | lone tag =>
    rw [Leaf.outline, Leaf.fragments]
    cases hname : isStructural (Text.asciiLower tag.name) with
    | true =>
      have hclose := close_extend_enter hc (Text.asciiLower tag.name) [] []
      rw [extend_nil, List.nil_append] at hclose
      exact congrArg (·, depth) hclose
    | false =>
      obtain ⟨hblock, htable⟩ := isStructural_eq_false_iff.1 hname
      rw [closingFragments_of_inline hblock htable]
      exact congrArg (·, depth) (extend_nil c).symm
  | _ => exact foldl_mark_characters c depth _

/-- The outline of a forest adds to a collector what the forest adds. -/
theorem foldl_mark_outline (f : Forest) (hc : c.Within depth) :
    f.outline.foldl mark (c, depth) =
      (c.extend f.content (f.fragments c.openBlock.isSome c.tableDepth.isSome), depth) := by
  induction f generalizing c depth with
  | nil => exact congrArg (·, depth) (extend_nil c).symm
  | leaf first rest ih =>
    rw [Forest.outline, List.foldl_append, foldl_mark_leaf first hc, ih (hc.extend _ _)]
    simp [Forest.content, Forest.fragments]
  | element tag children endTag rest ihChildren ih =>
    rw [Forest.outline]
    cases hname : isStructural (Text.asciiLower tag.name) with
    | true =>
      have hopened : mark (c, depth) (.opened (Text.asciiLower tag.name)) =
          (c.enter (Text.asciiLower tag.name) depth, depth + 1) := rfl
      have hclosed : ∀ c : Collector, mark (c, depth + 1) .closed = (c.close depth, depth) :=
        fun _ ↦ rfl
      rw [if_pos rfl, List.cons_append, List.foldl_cons, List.foldl_append, List.foldl_cons,
        hopened, ihChildren (hc.enter _), hclosed, close_extend_enter hc, ih (hc.extend _ _),
        isSome_openBlock_enter, isSome_tableDepth_enter]
      simp [Forest.content, Forest.fragments]
    | false =>
      obtain ⟨hblock, htable⟩ := isStructural_eq_false_iff.1 hname
      rw [if_neg Bool.false_ne_true, List.foldl_append, ihChildren hc, ih (hc.extend _ _),
        Forest.fragments_element_of_inline hblock htable]
      simp [Forest.content]

end Collector

/-- The fragments of a forest are collected from its outline. -/
theorem finish_foldl_mark_outline (f : Forest) :
    (f.outline.foldl Collector.mark (Collector.empty, 0)).1.finish = f.fragments false false := by
  rw [Collector.foldl_mark_outline f Collector.within_empty]
  exact Collector.finish_extend_empty _ _

/-- The outline of a forest decides its fragments. -/
theorem fragments_eq_of_outline_eq {f g : Forest} (h : f.outline = g.outline) :
    f.fragments false false = g.fragments false false := by
  rw [← finish_foldl_mark_outline, ← finish_foldl_mark_outline, h]

/-- The fragments of a page are those of its forest, and what is not in the outline of the forest
changes neither their texts nor their order. -/
theorem fragments_markup_eq_flattening (f : Forest) (h : f.WellFormed []) :
    fragments f.markup = f.fragments false false ∧
      ∀ g : Forest, g.WellFormed [] → g.outline = f.outline →
        fragments g.markup = fragments f.markup := by
  refine ⟨fragments_markup h, ?_⟩
  intro g hg houtline
  rw [fragments_markup h, fragments_markup hg, fragments_eq_of_outline_eq houtline]

/-- Inline elements, comments and end tags that close nothing do not divide the text of a block. -/
theorem fragments_of_decorated_paragraph :
    fragments "<p>A <b>list</b></td><!-- <p> --> of<br> items</p></p>" =
        fragments "<p>A list of items</p>" ∧
      fragments "<p>A list of items</p>" = [.block .paragraph "A list of items"] := by
  let plain : Forest :=
    .element ⟨"p", [], false⟩ (.leaf (.text "A list of items") .nil) { name := "p" } .nil
  let decorated : Forest :=
    .element ⟨"p", [], false⟩ (.leaf (.text "A ")
        (.element ⟨"b", [], false⟩ (.leaf (.text "list") .nil) { name := "b" }
          (.leaf (.stray { name := "td" }) (.leaf (.comment " <p> ") (.leaf (.text " of")
            (.leaf (.lone ⟨"br", [], false⟩) (.leaf (.text " items") .nil)))))))
      { name := "p" } (.leaf (.stray { name := "p" }) .nil)
  have hplain : plain.markup = "<p>A list of items</p>" := by decide
  have hdecorated : decorated.markup =
      "<p>A <b>list</b></td><!-- <p> --> of<br> items</p></p>" := by decide
  obtain ⟨hflattening, hsame⟩ := fragments_markup_eq_flattening plain (by decide)
  rw [← hplain, ← hdecorated, hflattening, hsame decorated (by decide) (by decide),
    hflattening]
  decide

end ApiReference.Page
