import ApiReference.Page.Record
import ApiReference.Schema.Definition

/-!
# Tables of parameters

A record describes a type or a function when its body holds a table of parameters. Such a table is
known by its header, three cells for a type and four for a function; the body may hold other texts
before it, which are the description. The cells behind the header are read row by row, each row as
wide as the header, and what is left at the end is no row.

## Main definitions

* `header`: the cells of the header for either kind.
* `ParameterTable`, `ParameterTable.find?`: a table, and the first table among some texts.
* `ParameterTable.parameters`, `ParameterTable.leftover`: the rows of a table and what is left.
-/

namespace ApiReference.Page

open Schema

/-- The header of the table of parameters for a kind of definition. -/
def header : Kind → List Text
  | .type => ["Field", "Type", "Description"]
  | .function => ["Parameter", "Type", "Required", "Description"]

/-- The number of cells in a row. -/
def rowWidth (kind : Kind) : Nat := (header kind).length

/-- A table of parameters: the kind of definition it belongs to, the texts before it and the cells
behind its header. -/
structure ParameterTable where
  kind : Kind
  preamble : List Text
  cells : List Text
deriving DecidableEq, Repr

namespace ParameterTable

/-- The kind whose header some texts start with. -/
def headerAt? (texts : List Text) : Option Kind :=
  [Kind.type, Kind.function].find? fun kind ↦ (header kind).isPrefixOf texts

/-- The first table of parameters among some texts. -/
def find? : List Text → Option ParameterTable
  | [] => none
  | text :: rest =>
    match headerAt? (text :: rest) with
    | some kind => some ⟨kind, [], (text :: rest).drop (rowWidth kind)⟩
    | none => (find? rest).map fun table ↦ { table with preamble := text :: table.preamble }

/-- The fields of a type, one for each row of three cells. A field is optional when its description
says so at the start. -/
def fields : List Text → List Parameter
  | name :: declaredType :: description :: rest =>
    { name, declaredType, description
      required := !("Optional" : Text).isPrefixOf description } :: fields rest
  | _ => []

/-- The parameters of a function, one for each row of four cells. The third cell says "Yes", in any
case of its letters, when the parameter is required. -/
def arguments : List Text → List Parameter
  | name :: declaredType :: requirement :: description :: rest =>
    { name, declaredType, description
      required := Text.asciiLower requirement == "yes" } :: arguments rest
  | _ => []

/-- The parameters of the complete rows of a table. -/
def parameters (table : ParameterTable) : List Parameter :=
  match table.kind with
  | .type => fields table.cells
  | .function => arguments table.cells

/-- The number of cells behind the last complete row. -/
def leftover (table : ParameterTable) : Nat := table.cells.length % rowWidth table.kind

/-- The texts before the table that are not empty, as lines. -/
def description (table : ParameterTable) : Text :=
  List.intercalate ['\n'] (table.preamble.filter (!·.isEmpty))

end ParameterTable

end ApiReference.Page
