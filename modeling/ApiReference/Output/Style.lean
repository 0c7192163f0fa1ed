import ApiReference.Schema.Definition

/-!
# Styles of output

A style says in which dialect definitions are written and settles what the dialect leaves open: the
package, the width of comments, and which types have no single shape.

## Main definitions

* `Dialect`, `Style`: the dialects and the styles.
-/

namespace ApiReference.Output

/-- The dialects in which definitions are written. -/
inductive Dialect where
  /-- Structures with fields, and signatures of functions. -/
  | struct
  /-- Messages with numbered fields. -/
  | message
  /-- The definitions themselves as JSON. -/
  | json
deriving DecidableEq, Repr

/-- How definitions are written. -/
structure Style where
  dialect : Dialect := .struct
  /-- The package that structures belong to. -/
  package : Text := "telegram"
  /-- The width of comments. -/
  width : Nat := 95
  /-- The names of further types of no single shape. -/
  opaqueNames : List Text := []
deriving DecidableEq, Repr

end ApiReference.Output
