import ApiReference.Text.Order
import ApiReference.Unicode.LetterCase

/-!
# Definitions

What a reference page documents: types with their fields, and functions with their parameters.
Definitions are listed by a *sort key*, which is the part of a name that starts with its first
capital, so that `getMe` stands with the letter M. Definitions with one key keep their order.

## Main definitions

* `Kind`, `Parameter`, `Definition`: the documented types and functions.
* `sortKey`, `Definition.sorted`: the order of definitions.

## Main results

* `Definition.sorted_perm`, `Definition.pairwise_sorted`: sorting rearranges the definitions by
  their keys.
-/

namespace ApiReference.Schema

/-- What a definition defines. -/
inductive Kind where
  | type
  | function
deriving DecidableEq, Repr

/-- A field of a type or a parameter of a function. Its type is declared in prose. -/
structure Parameter where
  name : Text
  declaredType : Text
  required : Bool
  description : Text
deriving DecidableEq, Repr

/-- A documented type or function. The description has one line for each paragraph. -/
structure Definition where
  name : Text
  description : Text
  parameters : List Parameter
  kind : Kind
deriving DecidableEq, Repr

/-- The part of a name from its first upper-case letter on. A name without one has its last
character as its key. -/
def sortKey (name : Text) : Text :=
  match name.dropWhile (!Unicode.isUppercase ·) with
  | [] => name.drop (name.length - 1)
  | key => key

namespace Definition

/-- Whether a definition may stand before another one: its key is not greater. -/
def keyLE (a b : Definition) : Bool := Text.le (sortKey a.name) (sortKey b.name)

/-- The definitions in the order of their keys, those with one key in the order given. -/
def sorted (definitions : List Definition) : List Definition := definitions.mergeSort keyLE

theorem keyLE_trans (a b c : Definition) (hab : keyLE a b) (hbc : keyLE b c) : keyLE a c :=
  Text.le_trans hab hbc

theorem keyLE_total (a b : Definition) : keyLE a b || keyLE b a := Text.le_total _ _

/-- Sorting loses no definition and adds none. -/
theorem sorted_perm (definitions : List Definition) : (sorted definitions).Perm definitions :=
  List.mergeSort_perm definitions keyLE

/-- The keys of sorted definitions never decrease. -/
theorem pairwise_sorted (definitions : List Definition) :
    (sorted definitions).Pairwise fun a b ↦ keyLE a b :=
  List.pairwise_mergeSort keyLE_trans keyLE_total definitions

end Definition

end ApiReference.Schema
