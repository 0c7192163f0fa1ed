import ApiReference.Log.Notice
import ApiReference.Page.ParameterTable

/-!
# Records as definitions

A record is a definition when it has a table of parameters with at least one complete row. The title
is the name, the texts before the table are the description, and the rows are the parameters. A
record that is no definition is dropped with a notice. Further notices tell of cells that make no
complete row, of a title whose first letter does not suit the kind of the table, and of texts behind
the table.

## Main definitions

* `Record.definition?`: the definition that a record describes.
* `Record.notices`: the notices about a record.
-/

namespace ApiReference.Page

open Log Schema

namespace Record

/-- The table of parameters of a record. -/
def table? (record : Record) : Option ParameterTable := ParameterTable.find? record.body

/-- The definition that a record describes. -/
def definition? (record : Record) : Option Definition := do
  let table ← record.table?
  guard !table.parameters.isEmpty
  return {
    name := record.title
    description := table.description
    parameters := table.parameters
    kind := table.kind }

/-- The kind that the first letter of a title suggests: functions start with a lower-case letter. -/
def suggestedKind (title : Text) : Kind :=
  if title.head?.any Unicode.isLowercase then .function else .type

/-- The notices about a record, in order. -/
def notices (record : Record) : List Notice :=
  match record.table? with
  | none => [.noTable record.title]
  | some table =>
    let incomplete :=
      if table.leftover = 0 then [] else [.incompleteRow record.title table.leftover]
    if table.parameters.isEmpty then incomplete ++ [.emptyTable record.title]
    else
      let unusual :=
        if suggestedKind record.title = table.kind then []
        else [.unusualCapitalization record.title table.kind]
      let behind :=
        if record.suffix.isEmpty then [] else [.textBehindTable record.title record.suffix]
      incomplete ++ unusual ++ behind

end Record

end ApiReference.Page
