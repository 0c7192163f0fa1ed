import ApiReference.Output.Comment
import ApiReference.Output.Identifier
import ApiReference.Output.Style
import ApiReference.Schema.DeclaredType
import ApiReference.Schema.ResultPhrase

/-!
# The struct dialect

The output is a package of blocks, each of them after an empty line. A type becomes a structure with
one field for each of its parameters, and a function becomes a comment that shows its signature.
Descriptions are comments above what they describe.

## Main definitions

* `structType`: a declared type in this dialect.
* `Style.signature`: the signature of a function.
* `Style.structBlock`: the lines of a definition.
* `Style.structLines`: all lines of the output.
-/

namespace ApiReference.Output

open Schema

/-- The type of the innermost elements. -/
def structBase : BaseType → Text
  | .scalar .integer => "int64"
  | .scalar .float => "float32"
  | .scalar .string => "string"
  | .scalar .boolean => "bool"
  | .reference name => '*' :: name
  | .any => "interface\x7b\x7d"

/-- A declared type: a pair of brackets for each dimension and the type of the elements. -/
def structType (declared : DeclaredType) : Text :=
  (List.replicate declared.dimensions ['[', ']']).flatten ++ structBase declared.base

namespace Style

variable (style : Style)

/-- The type that some prose declares. -/
def structTypeOf (declared : Text) : Text :=
  structType (.ofText style.opaqueNames declared)

/-- The lines of a field. -/
def structField (parameter : Parameter) : List Text :=
  comment 2 style.width parameter.description ++
    ["  " ++ exportedName parameter.name ++ " " ++ style.structTypeOf parameter.declaredType ++
      " `json:\"" ++ parameter.name ++ "\"`"]

/-- The lines of a structure. Fields have an empty line between them, and a structure without fields
stands on one line. -/
def structTypeBlock (definition : Definition) : List Text :=
  comment 0 style.width definition.description ++
    match definition.parameters with
    | [] => ["type " ++ definition.name ++ " struct \x7b\x7d"]
    | parameters =>
      ("type " ++ definition.name ++ " struct \x7b") ::
        List.intercalate [[]] (parameters.map style.structField) ++ [['\x7d']]

/-- The parameters of a signature with their types. -/
def argumentList (parameters : List Parameter) : Text :=
  List.intercalate ", " (parameters.map fun parameter ↦
    localName parameter.name ++ " " ++ style.structTypeOf parameter.declaredType)

/-- The signature of a function. Every function may fail, and the description may name a result. -/
def signature (definition : Definition) : Text :=
  let result : Text :=
    match definition.resultType? with
    | some type => "(" ++ style.structTypeOf type ++ ", error)"
    | none => "error"
  "func " ++ definition.name ++ "(" ++ style.argumentList definition.parameters ++ ") " ++ result

/-- The lines of a definition. -/
def structBlock (definition : Definition) : List Text :=
  match definition.kind with
  | .type => style.structTypeBlock definition
  | .function =>
    comment 0 style.width definition.description ++ ["// " ++ style.signature definition]

/-- The lines of the output. -/
def structLines (definitions : List Definition) : List Text :=
  ["package " ++ style.package] ++ definitions.flatMap fun definition ↦
    [] :: style.structBlock definition

end Style

end ApiReference.Output
