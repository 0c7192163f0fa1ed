import ApiReference.Text.Search
import ApiReference.Unicode.LetterCase
import ApiReference.Unicode.Word

/-!
# Declared types

A reference declares types in prose: `Integer`, `Array of PhotoSize`, `Integer or String`. A
declared type is reduced to a *base* and a number of array dimensions, one for every `Array of`. The
base is one of a few scalars, another definition that is referred to by its name, or unknown where
the prose names no single type with a known shape. A declaration that mentions `or` anywhere behind
a space is a *loose union*, which says little about the values.

## Main definitions

* `Scalar`, `BaseType`, `DeclaredType`: declared types.
* `DeclaredType.ofText`: the declared type that some prose means.
-/

namespace ApiReference.Schema

/-- The types of single values. -/
inductive Scalar where
  | integer
  | float
  | string
  | boolean
deriving DecidableEq, Repr

/-- What the innermost elements of a declared type are. -/
inductive BaseType where
  | scalar (scalar : Scalar)
  /-- Another definition. -/
  | reference (name : Text)
  /-- A union, a type of no single shape, or prose that is no type. -/
  | any
deriving DecidableEq, Repr

/-- A base with a number of array dimensions. -/
structure DeclaredType where
  base : BaseType
  dimensions : Nat
  looseUnion : Bool
deriving DecidableEq, Repr

/-- The names of the scalars. -/
def scalarNames : List (Text × Scalar) := [
  ("Integer", .integer), ("Float", .float), ("Float number", .float), ("String", .string),
  ("Boolean", .boolean), ("True", .boolean), ("False", .boolean)]

/-- The names of concepts whose values have no single shape. -/
def shapelessNames : List Text := [
  "ChatMember", "InputFile", "CallbackGame", "InlineQueryResult", "InputMessageContent",
  "VoiceChatStarted", "InputMedia", "BotCommandScope", "PassportElementError"]

/-- Whether a text is a single word of letters, numbers and underscores. -/
def isIdentifier (name : Text) : Bool :=
  !name.isEmpty && name.all fun c ↦ Unicode.isAlphanumeric c || c == '_'

/-- The base that a name stands for. The names in `opaqueNames` have no single shape either. A name
that is no scalar has to start with a capital. -/
def BaseType.ofName (opaqueNames : List Text) (name : Text) : BaseType :=
  match scalarNames.lookup name with
  | some known => .scalar known
  | none =>
    if !isIdentifier name || shapelessNames.contains name || opaqueNames.contains name then .any
    else if name.head?.any Unicode.isUppercase then .reference name
    else .any

namespace DeclaredType

/-- The words that add an array dimension. -/
def arrayWords : Text := "Array of"

/-- The declared type that some prose means. -/
def ofText (opaqueNames : List Text) (declared : Text) : DeclaredType :=
  let pieces := Text.pieces arrayWords declared
  { base :=
      if Text.occurs " or " declared then .any
      else .ofName opaqueNames (Text.trim pieces.flatten)
    dimensions := pieces.length - 1
    looseUnion := Text.occurs " or" declared }

end DeclaredType

end ApiReference.Schema
