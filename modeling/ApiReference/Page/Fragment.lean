import ApiReference.Markup.Step

/-!
# Fragments of a page

Of a page only the headings, the paragraphs and the cells of tables matter, and where the tables
end. A page is therefore flattened into fragments: one for the text of every such *block*, and one
for the end of every table. A block inside another block is part of the outer one, and a table
inside a table is part of the outer table. No tree is built; a block is known to be over when the
depth of the reader falls back to what it was before the block.

## Main definitions

* `BlockKind`, `Fragment`: the kinds of blocks, and the fragments.
* `Collector`, `Collector.handle`: the block and the table that are open, step by step.
* `fragments`: the fragments of a page.
-/

namespace ApiReference.Page

open Markup

/-- The kinds of blocks. -/
inductive BlockKind where
  | heading
  | paragraph
  | cell
deriving DecidableEq, Repr

/-- The kind of block that an element makes, if it makes one. -/
def BlockKind.ofElement? (name : Text) : Option BlockKind :=
  if name = "h4" then some .heading
  else if name = "p" then some .paragraph
  else if name = "td" ∨ name = "th" then some .cell
  else none

/-- A fragment of a page. -/
inductive Fragment where
  /-- The text of a block, without the white space around it. -/
  | block (kind : BlockKind) (text : Text)
  /-- The end of a table. -/
  | tableEnd
deriving DecidableEq, Repr

/-- A block that is being read: its kind, the depth before it and the text read so far. -/
structure OpenBlock where
  kind : BlockKind
  depth : Nat
  text : Text
deriving DecidableEq, Repr

/-- The fragment of a block that is over. -/
def OpenBlock.fragment (block : OpenBlock) : Fragment := .block block.kind (Text.trim block.text)

/-- What is known of a page up to some step of its reader: the outermost open block, the depth
before the outermost open table, and the fragments, the latest first. -/
structure Collector where
  openBlock : Option OpenBlock
  tableDepth : Option Nat
  collected : List Fragment
deriving DecidableEq, Repr

namespace Collector

/-- The collector before the first step. -/
def empty : Collector := ⟨none, none, []⟩

/-- An element opens at a depth. It opens a table or a block unless one is open. -/
def enter (c : Collector) (name : Text) (depth : Nat) : Collector :=
  { c with
    tableDepth := c.tableDepth.or (if name = "table" then some depth else none)
    openBlock := c.openBlock.or ((BlockKind.ofElement? name).map (⟨·, depth, []⟩)) }

/-- Some text is met. It belongs to the open block, if there is one. -/
def append (c : Collector) (characters : Text) : Collector :=
  { c with openBlock := c.openBlock.map fun block ↦ { block with text := block.text ++ characters } }

/-- The open block is over when the depth has fallen back to what it was before the block. -/
def closeBlock (c : Collector) (depth : Nat) : Collector :=
  match c.openBlock with
  | none => c
  | some block =>
    if depth ≤ block.depth then
      { c with openBlock := none, collected := block.fragment :: c.collected }
    else c

/-- The open table is over when the depth has fallen back to what it was before the table. -/
def closeTable (c : Collector) (depth : Nat) : Collector :=
  match c.tableDepth with
  | none => c
  | some before =>
    if depth ≤ before then { c with tableDepth := none, collected := .tableEnd :: c.collected }
    else c

/-- The collector behind a step of the reader. -/
def handle (c : Collector) (step : Step) : Collector :=
  match step.event with
  | .opened name _ => c.enter name step.before
  | .text characters => c.append characters
  | .closed _ => (c.closeBlock step.after).closeTable step.after

/-- All fragments in order. A block that is still open at the end of the page counts too. -/
def finish (c : Collector) : List Fragment :=
  c.collected.reverse ++ (c.openBlock.map OpenBlock.fragment).toList

end Collector

/-- The fragments that a reader comes across. -/
def collect (r : Reader) : List Fragment := (r.foldSteps Collector.handle Collector.empty).finish

/-- The fragments of a page. -/
def fragments (markup : Text) : List Fragment := collect (Reader.ofMarkup markup)

end ApiReference.Page
