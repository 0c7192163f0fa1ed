import ApiReference.Page.Fragment

/-!
# Records of a page

Every heading starts a record, which reaches to the next heading or to the end of the page. The
texts of a record are divided by the end of its first table: those before it are the body, which
holds the table, and those behind it are the suffix. What comes before the first heading belongs to
no record.

## Main definitions

* `Record`: a heading with the texts below it.
* `Record.ofFragments`: the records of a list of fragments.
* `records`: the records of a page.
-/

namespace ApiReference.Page

/-- A heading with the texts below it, up to the end of the first table and behind it. -/
structure Record where
  title : Text
  body : List Text
  suffix : List Text
deriving DecidableEq, Repr

/-- Whether a fragment is a heading. -/
def Fragment.isHeading : Fragment → Bool
  | .block .heading _ => true
  | _ => false

/-- The text of a fragment. The end of a table has none. -/
def Fragment.text? : Fragment → Option Text
  | .block _ text => some text
  | .tableEnd => none

/-- The texts of some fragments in order. -/
def texts (fragments : List Fragment) : List Text := fragments.filterMap Fragment.text?

/-- The record of a title and the fragments below it. -/
def Record.ofSection (title : Text) (below : List Fragment) : Record where
  title := title
  body := texts (below.takeWhile (· != .tableEnd))
  suffix := texts (below.dropWhile (· != .tableEnd))

/-- The records of a list of fragments, one for each heading. -/
def Record.ofFragments : List Fragment → List Record
  | [] => []
  | .block .heading title :: rest =>
    .ofSection title (rest.takeWhile (!·.isHeading)) :: ofFragments rest
  | _ :: rest => ofFragments rest

/-- The records of a page. -/
def records (markup : Text) : List Record := Record.ofFragments (fragments markup)

end ApiReference.Page
