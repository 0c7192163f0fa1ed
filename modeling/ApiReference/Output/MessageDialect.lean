import ApiReference.Output.Comment
import ApiReference.Output.Style
import ApiReference.Schema.DeclaredType
import ApiReference.Text.Numeral

/-!
# The message dialect

Every definition, a type or a function, becomes a message whose fields are its parameters, numbered
from one in order. Messages have an empty line between them, and every field has one before it.
Descriptions are comments above what they describe.

## Main definitions

* `messageType`: a declared type in this dialect.
* `Style.messageBlock`: the lines of a message.
* `Style.messageLines`: all lines of the output.
-/

namespace ApiReference.Output

open Schema

/-- The type of the innermost elements. -/
def messageBase : BaseType → Text
  | .scalar .integer => "int64"
  | .scalar .float => "float"
  | .scalar .string => "string"
  | .scalar .boolean => "bool"
  | .reference name => name
  | .any => "bytes"

/-- A declared type. Neither a union nor an array of arrays can be said, so they are left as
bytes. -/
def messageType (declared : DeclaredType) : Text :=
  if declared.looseUnion || declared.dimensions > 1 then "bytes"
  else if declared.dimensions = 1 then "repeated " ++ messageBase declared.base
  else messageBase declared.base

namespace Style

variable (style : Style)

/-- The type that some prose declares. -/
def messageTypeOf (declared : Text) : Text :=
  messageType (.ofText style.opaqueNames declared)

/-- The lines of a field with a number. -/
def messageField (parameter : Parameter) (number : Nat) : List Text :=
  [] :: comment 2 style.width parameter.description ++
    ["  " ++ style.messageTypeOf parameter.declaredType ++ " " ++ parameter.name ++ " = " ++
      Text.decimal number ++ ";"]

/-- The lines of a message. -/
def messageBlock (definition : Definition) : List Text :=
  comment 0 style.width definition.description ++
    ["message " ++ definition.name ++ " \x7b"] ++
    ((definition.parameters.zipIdx 1).flatMap fun (parameter, number) ↦
      style.messageField parameter number) ++
    [['\x7d']]

/-- The lines of the output. -/
def messageLines (definitions : List Definition) : List Text :=
  List.intercalate [[]] (definitions.map style.messageBlock)

end Style

end ApiReference.Output
