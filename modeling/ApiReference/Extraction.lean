import ApiReference.Page.Interpretation

/-!
# Extracting the definitions of a page

The definitions of a page are those that its records describe. A *selection* restricts them: it may
start at a heading, so that every record before the first one with exactly that title is ignored,
and it may leave the functions out. The definitions are sorted by their keys, and the notices are
those about the records in the order of the page and one about the number of definitions.

## Main definitions

* `Selection`, `Selection.records?`: which records and definitions are wanted.
* `Extraction`, `extract`: the definitions of a page with the notices about it.
* `ExtractionError`: why there are none.
-/

namespace ApiReference

open Log Page Schema

/-- Which definitions of a page are wanted. -/
structure Selection where
  /-- The title of the first record that counts. -/
  startAt : Option Text := none
  includeFunctions : Bool := true
deriving DecidableEq, Repr

/-- Why a page cannot be read as asked for. -/
inductive ExtractionError where
  /-- No record has the title that the selection starts at. -/
  | headingNotFound (title : Text)
deriving DecidableEq, Repr

/-- The message of an error. -/
def ExtractionError.message : ExtractionError → Text
  | headingNotFound title => ("heading not found: " : Text) ++ title

/-- The definitions of a page in the order of their keys, and the notices about the page. -/
structure Extraction where
  definitions : List Definition
  notices : List Notice
deriving DecidableEq, Repr

namespace Selection

/-- The records that count: those from the starting heading on. -/
def records? (selection : Selection) (records : List Record) :
    Except ExtractionError (List Record) :=
  match selection.startAt with
  | none => .ok records
  | some title =>
    match records.dropWhile (·.title != title) with
    | [] => .error (.headingNotFound title)
    | chosen => .ok chosen

/-- Whether a definition is wanted. -/
def admits (selection : Selection) (definition : Definition) : Bool :=
  selection.includeFunctions || definition.kind != .function

/-- The wanted definitions among those that some records describe, in the order of the records. -/
def definitions (selection : Selection) (records : List Record) : List Definition :=
  (records.filterMap Record.definition?).filter selection.admits

end Selection

/-- The definitions of a page that a selection wants, and the notices about the page. -/
def extract (selection : Selection) (markup : Text) : Except ExtractionError Extraction := do
  let chosen ← selection.records? (records markup)
  let definitions := selection.definitions chosen
  return {
    definitions := Definition.sorted definitions
    notices := chosen.flatMap Record.notices ++ [.extracted definitions.length] }

end ApiReference
