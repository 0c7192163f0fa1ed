import ApiReference.Text.Basic
import ApiReference.Unicode.CaseMapping

/-!
# Identifiers

Parameters are named in words joined by underscores. A field gets an *exported* name, in which every
word starts with a capital and nothing stands between the words; the initialisms among the words are
written in capitals throughout. A parameter of a function gets a *local* name, which is the exported
one with its first letter in lower case, unless it has no lower-case letter at all.

## Main definitions

* `exportedName`, `localName`: the identifiers made from the name of a parameter.
-/

namespace ApiReference.Output

/-- A text in upper case. -/
def upperCase (s : Text) : Text := s.flatMap Unicode.upper

/-- A text in lower case. -/
def lowerCase (s : Text) : Text := s.flatMap Unicode.lower

/-- The words that are written in capitals. -/
def initialisms : List Text := ["id", "url", "ip"]

/-- A word as part of an exported name. -/
def exportedWord (word : Text) : Text :=
  if initialisms.contains (lowerCase word) then upperCase word
  else
    match word with
    | [] => []
    | c :: rest => Unicode.upper c ++ rest

/-- The name of a field that has the name of a parameter. -/
def exportedName (name : Text) : Text :=
  ((Text.split '_' name).filter (!·.isEmpty)).flatMap exportedWord

/-- The name of a function's parameter. -/
def localName (name : Text) : Text :=
  let exported := exportedName name
  if upperCase exported == exported then exported
  else
    match exported with
    | [] => []
    | c :: rest => Unicode.lower c ++ rest

end ApiReference.Output
