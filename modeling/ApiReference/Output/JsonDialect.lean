import ApiReference.Output.Json
import ApiReference.Schema.Definition

/-!
# The JSON dialect

The definitions themselves: an array with an object for each definition, and in it an array with an
object for each parameter.

## Main definitions

* `jsonDefinition`, `jsonParameter`: a definition and a parameter as values.
* `jsonText`: the text of the output.
-/

namespace ApiReference.Output

open Schema

/-- A parameter as a value. -/
def jsonParameter (parameter : Parameter) : Json :=
  .object [
    ("name", .string parameter.name),
    ("declared_type", .string parameter.declaredType),
    ("required", .bool parameter.required),
    ("description", .string parameter.description)]

/-- A kind as a value. -/
def jsonKind : Kind → Json
  | .type => .string "type"
  | .function => .string "function"

/-- A definition as a value. -/
def jsonDefinition (definition : Definition) : Json :=
  .object [
    ("name", .string definition.name),
    ("description", .string definition.description),
    ("params", .array (definition.parameters.map jsonParameter)),
    ("kind", jsonKind definition.kind)]

/-- The text of the output: the array of the definitions, and a newline behind it. -/
def jsonText (definitions : List Definition) : Text :=
  Json.print 0 (.array (definitions.map jsonDefinition)) ++ ['\n']

end ApiReference.Output
