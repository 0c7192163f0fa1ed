import ApiReference.Output.JsonDialect
import ApiReference.Output.MessageDialect
import ApiReference.Output.StructDialect

/-!
# Rendering definitions

## Main definitions

* `Style.render`: the text of some definitions in a style.
-/

namespace ApiReference.Output

open Schema

/-- The text of some definitions, in the order given. -/
def Style.render (style : Style) (definitions : List Definition) : Text :=
  match style.dialect with
  | .struct => Text.unlines (style.structLines definitions)
  | .message => Text.unlines (style.messageLines definitions)
  | .json => jsonText definitions

end ApiReference.Output
