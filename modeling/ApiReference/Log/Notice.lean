import ApiReference.Schema.Definition
import ApiReference.Text.Quoted

/-!
# Notices

While a page is loaded and read, notices report what happens: where the page comes from, which
records are no definitions, and what is odd about the others. A notice belongs to a component of the
program and has a level, a message and named values. How many levels are shown depends on the
verbosity that is asked for.

## Main definitions

* `Level`, `Notice`: the levels and the notices.
* `Notice.level`, `Notice.component`, `Notice.message`, `Notice.fields`: what a notice says.
* `Notice.line`: a notice as it is shown.
* `Level.shownAt`: whether a level is shown at a verbosity.
-/

namespace ApiReference.Log

open Schema Text

/-- How important a notice is. -/
inductive Level where
  | trace
  | debug
  | info
  | warn
deriving DecidableEq, Repr

/-- The verbosity from which on a level is shown. -/
def Level.verbosity : Level → Nat
  | .warn => 0
  | .info => 1
  | .debug => 2
  | .trace => 3

/-- Whether a level is shown at a verbosity. -/
def Level.shownAt (verbosity : Nat) (level : Level) : Bool := level.verbosity ≤ verbosity

/-- What can be reported. The title in a notice is the heading of the record it is about. -/
inductive Notice where
  /-- A page is about to be fetched. -/
  | fetching (url : Text)
  /-- A page of so many bytes has been loaded. -/
  | loaded (bytes : Nat)
  /-- A record has no table of parameters and is dropped. -/
  | noTable (title : Text)
  /-- The cells of the last row are too few, and so many are ignored. -/
  | incompleteRow (title : Text) (leftover : Nat)
  /-- The table of parameters has no complete row, and the record is dropped. -/
  | emptyTable (title : Text)
  /-- The table is one for the given kind, and the first letter of the title suggests the other. -/
  | unusualCapitalization (title : Text) (kind : Kind)
  /-- The texts behind the table are ignored. -/
  | textBehindTable (title : Text) (texts : List Text)
  /-- So many definitions have been found. -/
  | extracted (definitions : Nat)
deriving DecidableEq, Repr

namespace Notice

/-- The level of a notice. -/
def level : Notice → Level
  | fetching _ | loaded _ | extracted _ => .info
  | noTable _ | incompleteRow .. | emptyTable _ => .debug
  | unusualCapitalization .. => .warn
  | textBehindTable .. => .trace

/-- The component of the program that reports a notice. -/
def component : Notice → Text
  | fetching _ | loaded _ => "apigen::source"
  | extracted _ => "apigen::parser"
  | noTable _ | incompleteRow .. | emptyTable _ | unusualCapitalization .. | textBehindTable .. =>
    "apigen::parser::normalize"

/-- The message of a notice. -/
def message : Notice → Text
  | fetching _ => "fetching"
  | loaded _ => "loaded document"
  | noTable _ => "dropping record without a parameter table"
  | incompleteRow .. => "ignoring incomplete table row"
  | emptyTable _ => "dropping record with an empty parameter table"
  | unusualCapitalization .. => "table header disagrees with the capitalization of the name"
  | textBehindTable .. => "ignoring text after table"
  | extracted _ => "parsed document"

/-- The name of a kind in notices. -/
def kindName : Kind → Text
  | .type => "Type"
  | .function => "Function"

/-- The named values of a notice in order. -/
def fields : Notice → List (Text × Text)
  | fetching url => [("url", url)]
  | loaded bytes => [("bytes", decimal bytes)]
  | noTable title => [("title", title)]
  | incompleteRow title leftover => [("title", title), ("leftover", decimal leftover)]
  | emptyTable title => [("title", title)]
  | unusualCapitalization title kind => [("title", title), ("kind", kindName kind)]
  | textBehindTable title texts => [("title", title), ("suffix", quotedList texts)]
  | extracted definitions => [("definitions", decimal definitions)]

end Notice

/-- The name of a level. -/
def Level.name : Level → Text
  | .trace => "TRACE"
  | .debug => "DEBUG"
  | .info => "INFO"
  | .warn => "WARN"

/-- A notice as it is shown: the level, the component, the message and the named values. -/
def Notice.line (notice : Notice) : Text :=
  notice.level.name ++ ' ' :: notice.component ++ ':' :: ' ' :: notice.message ++
    notice.fields.flatMap fun (name, value) ↦ ' ' :: name ++ '=' :: value

end ApiReference.Log
