import ApiReference.Proofs.Page.ForestFragments
import ApiReference.Proofs.Page.Sections
import ApiReference.Proofs.Page.TableHeader
import ApiReference.Schema.Definition

/-!
# Articles

An article is a definition as an author writes it: a heading with the name, the paragraphs of the
description and a table with a header and one row for each parameter. A page is written as a row of
articles. Between the tags of a page, outside of its blocks, there may be texts, as a rule white
space that sets out the page; they change none of its records.

## Main definitions

* `Forest.Interspersed`: a forest with texts between the tags.
* `Article`, `Article.definition`, `Article.WellFormed`: what an author writes.
* `Article.page`: articles as the forest of a page.

## Main results

* `Forest.Interspersed.fragments_eq`: texts between the tags make no fragments.
* `records_of_interspersed`: a page has one record for each of its articles.
-/

namespace ApiReference.Markup

open Page Schema

/-! ### Texts between the tags -/

namespace Forest

/-- The second forest is the first one with texts put between its tags, outside of the blocks. The
first forest has no leaves outside of its blocks. -/
inductive Interspersed : Forest → Forest → Prop
  | nil : Interspersed nil nil
  | text {f g : Forest} (characters : Text) (hne : characters ≠ []) (hg : ¬ g.StartsWithText)
      (h : Interspersed f g) : Interspersed f (leaf (.text characters) g)
  | block {rest rest' : Forest} (tag : StartTag) (children : Forest) (endTag : EndTag)
      (hblock : (BlockKind.ofElement? (Text.asciiLower tag.name)).isSome)
      (h : Interspersed rest rest') :
      Interspersed (element tag children endTag rest) (element tag children endTag rest')
  | element {children children' rest rest' : Forest} (tag : StartTag) (endTag : EndTag)
      (hblock : BlockKind.ofElement? (Text.asciiLower tag.name) = none)
      (hchildren : Interspersed children children') (h : Interspersed rest rest') :
      Interspersed (element tag children endTag rest) (element tag children' endTag rest')

variable {f g : Forest}

theorem Interspersed.wellFormed (h : Interspersed f g) {enclosing : List Text}
    (hf : f.WellFormed enclosing) : g.WellFormed enclosing := by
  induction h generalizing enclosing with
  | nil => exact hf
  | text characters hne hg _ ih => exact ⟨hne, fun htexts ↦ hg htexts.2, ih hf⟩
  | block tag children endTag _ _ ih =>
    obtain ⟨hpaired, hvoid, hraw, hchildren, hrest⟩ := hf
    exact ⟨hpaired, hvoid, hraw, hchildren, ih hrest⟩
  | element tag endTag _ _ _ ihChildren ih =>
    obtain ⟨hpaired, hvoid, hraw, hchildren, hrest⟩ := hf
    exact ⟨hpaired, hvoid, hraw, ihChildren hchildren, ih hrest⟩

/-- Texts between the tags make no fragments and are in none. -/
theorem Interspersed.fragments_eq (h : Interspersed f g) (inTable : Bool) :
    g.fragments false inTable = f.fragments false inTable := by
  induction h generalizing inTable with
  | nil => rfl
  | text characters _ _ _ ih => exact ih inTable
  | block tag children endTag _ _ ih => rw [fragments, fragments, ih]
  | element tag endTag hblock _ _ ihChildren ih =>
    rw [fragments, fragments, ih, hblock, Option.isSome_none, Bool.or_false, ihChildren,
      closingFragments, closingFragments, hblock]
    rfl

/-! ### Plain elements -/

/-- The names of the elements that articles are made of. -/
def articleElements : List Text := ["h4", "p", "th", "td", "tr", "table"]

theorem of_mem_articleElements : ∀ name ∈ articleElements,
    IsElementName name ∧ Text.asciiLower name = name ∧ isVoid name = false ∧
      isRawText name = false := by
  decide

/-- An element without attributes, in front of a forest. -/
def enclose (name : Text) (children rest : Forest) : Forest :=
  element ⟨name, [], false⟩ children { name } rest

/-- A forest that is one text. -/
def ofText (characters : Text) : Forest :=
  if characters = [] then nil else leaf (.text characters) nil

/-- Elements with one text each, in front of a forest. -/
def blocks (name : Text) (texts : List Text) (rest : Forest) : Forest :=
  texts.foldr (fun text ↦ enclose name (ofText text)) rest

theorem wellFormed_ofText (characters : Text) (enclosing : List Text) :
    (ofText characters).WellFormed enclosing := by
  rw [ofText]
  split
  · trivial
  · rename_i hne
    exact ⟨hne, fun htexts ↦ htexts.2, trivial⟩

theorem wellFormed_enclose {name : Text} (hname : name ∈ articleElements) {children rest : Forest}
    {enclosing : List Text} (hchildren : ∀ enclosing, children.WellFormed enclosing)
    (hrest : rest.WellFormed enclosing) : (enclose name children rest).WellFormed enclosing := by
  obtain ⟨helement, hlower, hvoid, hraw⟩ := of_mem_articleElements name hname
  have hpaired : Paired ⟨name, [], false⟩ { name } :=
    ⟨⟨helement, fun _ h ↦ absurd h List.not_mem_nil⟩, rfl, ⟨helement, by simp, by simp⟩, rfl⟩
  exact ⟨hpaired, hlower.symm ▸ hvoid, hlower.symm ▸ hraw, hchildren _, hrest⟩

theorem wellFormed_blocks {name : Text} (hname : name ∈ articleElements) (texts : List Text)
    {rest : Forest} {enclosing : List Text} (hrest : rest.WellFormed enclosing) :
    (blocks name texts rest).WellFormed enclosing := by
  induction texts with
  | nil => exact hrest
  | cons text texts ih => exact wellFormed_enclose hname (wellFormed_ofText text) ih

theorem fragments_ofText (characters : Text) (inBlock inTable : Bool) :
    (ofText characters).fragments inBlock inTable = [] := by
  rw [ofText]
  split <;> rfl

theorem content_ofText (characters : Text) : (ofText characters).content = characters := by
  rw [ofText]
  split
  · rename_i h
    exact h.symm
  · exact List.append_nil characters

/-- Blocks make one fragment for each of their texts. -/
theorem fragments_blocks {name : Text} (hname : name ∈ articleElements) {kind : BlockKind}
    (hkind : BlockKind.ofElement? name = some kind) {texts : List Text}
    (htexts : ∀ text ∈ texts, text.IsTrimmed) (rest : Forest) (inTable : Bool) :
    (blocks name texts rest).fragments false inTable =
      texts.map (.block kind) ++ rest.fragments false inTable := by
  have hlower := (of_mem_articleElements name hname).2.1
  have htable : ¬ (inTable = false ∧ name = "table") := by
    rintro ⟨-, rfl⟩
    have hnone : BlockKind.ofElement? ("table" : Text) = none := by decide
    rw [hnone] at hkind
    cases hkind
  induction texts with
  | nil => rfl
  | cons text texts ih =>
    obtain ⟨htext, htexts⟩ := List.forall_mem_cons.1 htexts
    have hclosing : closingFragments false inTable name text = [.block kind text] := by
      rw [closingFragments, if_neg htable, hkind, Text.trim_eq_self htext]
      rfl
    have hfirst : (enclose name (ofText text) (blocks name texts rest)).fragments false inTable =
        .block kind text :: (blocks name texts rest).fragments false inTable := by
      rw [enclose, fragments, hlower, fragments_ofText, content_ofText, hclosing]
      rfl
    exact hfirst.trans (congrArg _ (ih htexts))

/-- A row of a table, in front of a forest. -/
def row (name : Text) (cells : List Text) (rest : Forest) : Forest :=
  enclose "tr" (blocks name cells nil) rest

theorem wellFormed_row {name : Text} (hname : name ∈ articleElements) (cells : List Text)
    {rest : Forest} {enclosing : List Text} (hrest : rest.WellFormed enclosing) :
    (row name cells rest).WellFormed enclosing :=
  wellFormed_enclose (by decide) (fun _ ↦ wellFormed_blocks hname cells trivial) hrest

theorem fragments_row {name : Text} (hname : name ∈ articleElements)
    (hkind : BlockKind.ofElement? name = some .cell) {cells : List Text}
    (hcells : ∀ text ∈ cells, text.IsTrimmed) (rest : Forest) (inTable : Bool) :
    (row name cells rest).fragments false inTable =
      cells.map (.block .cell) ++ rest.fragments false inTable := by
  have hblock : BlockKind.ofElement? (Text.asciiLower "tr") = none := by decide
  have htable : Text.asciiLower "tr" ≠ "table" := by decide
  rw [row, enclose, fragments_element_of_inline hblock htable, fragments_blocks hname hkind hcells,
    fragments, List.append_nil]

/-- A table with a header and some rows, in front of a forest. -/
def table (header : List Text) (rows : List (List Text)) (rest : Forest) : Forest :=
  enclose "table" (row "th" header (rows.foldr (row "td") nil)) rest

theorem wellFormed_table (header : List Text) (rows : List (List Text)) {rest : Forest}
    {enclosing : List Text} (hrest : rest.WellFormed enclosing) :
    (table header rows rest).WellFormed enclosing := by
  refine wellFormed_enclose (by decide) (fun _ ↦ wellFormed_row (by decide) header ?_) hrest
  induction rows with
  | nil => trivial
  | cons cells rows ih => exact wellFormed_row (by decide) cells ih

/-- A table makes a fragment for each of its cells, and one at its end. -/
theorem fragments_table {header : List Text} (hheader : ∀ text ∈ header, text.IsTrimmed)
    {rows : List (List Text)} (hrows : ∀ cells ∈ rows, ∀ text ∈ cells, text.IsTrimmed)
    (rest : Forest) :
    (table header rows rest).fragments false false =
      (header ++ rows.flatten).map (.block .cell) ++ .tableEnd :: rest.fragments false false := by
  have hfragments : (rows.foldr (row "td") nil).fragments false true =
      rows.flatten.map (.block .cell) := by
    induction rows with
    | nil => rfl
    | cons cells rows ih =>
      obtain ⟨hcells, hrows⟩ := List.forall_mem_cons.1 hrows
      rw [List.foldr_cons, fragments_row (by decide) (by decide) hcells, ih hrows,
        List.flatten_cons, List.map_append]
  have hclosing : ∀ content, closingFragments false false "table" content = [.tableEnd] := by
    intro content
    rfl
  have hfirst : (table header rows rest).fragments false false =
      (row "th" header (rows.foldr (row "td") nil)).fragments false true ++ [.tableEnd] ++
        rest.fragments false false := by
    rw [table, enclose, fragments, ← hclosing]
    rfl
  rw [hfirst, fragments_row (by decide) (by decide) hheader, hfragments]
  simp

end Forest

end ApiReference.Markup

namespace ApiReference.Page

open Markup Schema

/-! ### Articles -/

/-- The cell of a function's parameter that says whether the parameter is required. -/
def requirement (required : Bool) : Text := if required then "Yes" else "Optional"

/-- The cells of the row of a parameter. A field of a type says in its description whether it is
optional, a parameter of a function has a cell for it. -/
def rowCells : Kind → Parameter → List Text
  | .type, parameter => [parameter.name, parameter.declaredType, parameter.description]
  | .function, parameter =>
    [parameter.name, parameter.declaredType, requirement parameter.required,
      parameter.description]

/-- A definition as an author writes it, with the paragraphs of its description. -/
structure Article where
  name : Text
  paragraphs : List Text
  parameters : List Parameter
  kind : Kind
deriving DecidableEq, Repr

namespace Article

/-- The definition that an article is about. -/
def definition (article : Article) : Definition where
  name := article.name
  description := List.intercalate ['\n'] article.paragraphs
  parameters := article.parameters
  kind := article.kind

/-- An article that can be read back: none of its texts has white space around it, no paragraph is
empty, no header stands among the paragraphs, there is a parameter, and exactly those fields of a
type are optional whose descriptions say so. The cells of parameters may be empty. -/
structure WellFormed (article : Article) : Prop where
  name : article.name.IsTrimmed
  paragraphs : ∀ paragraph ∈ article.paragraphs, paragraph ≠ [] ∧ paragraph.IsTrimmed
  no_header : ∀ kind, ¬ header kind <:+: article.paragraphs
  parameters_ne_nil : article.parameters ≠ []
  parameters : ∀ parameter ∈ article.parameters,
    parameter.name.IsTrimmed ∧ parameter.declaredType.IsTrimmed ∧ parameter.description.IsTrimmed
  required : article.kind = .type → ∀ parameter ∈ article.parameters,
    (parameter.required = false ↔ ("Optional" : Text) <+: parameter.description)

instance (article : Article) : Decidable article.WellFormed :=
  decidable_of_iff (article.name.IsTrimmed ∧
      (∀ paragraph ∈ article.paragraphs, paragraph ≠ [] ∧ paragraph.IsTrimmed) ∧
      (∀ kind ∈ [Kind.type, Kind.function], ¬ header kind <:+: article.paragraphs) ∧
      article.parameters ≠ [] ∧
      (∀ parameter ∈ article.parameters, parameter.name.IsTrimmed ∧
        parameter.declaredType.IsTrimmed ∧ parameter.description.IsTrimmed) ∧
      (article.kind = .type → ∀ parameter ∈ article.parameters,
        (parameter.required = false ↔ ("Optional" : Text) <+: parameter.description)))
    ⟨fun ⟨hname, hparagraphs, hheader, hne, hparameters, hrequired⟩ ↦
        ⟨hname, hparagraphs, fun kind ↦ hheader kind (by cases kind <;> decide), hne, hparameters,
          hrequired⟩,
      fun h ↦ ⟨h.name, h.paragraphs, fun kind _ ↦ h.no_header kind, h.parameters_ne_nil,
        h.parameters, h.required⟩⟩

/-- The record of an article. -/
def record (article : Article) : Record where
  title := article.name
  body := article.paragraphs ++
    (header article.kind ++ article.parameters.flatMap (rowCells article.kind))
  suffix := []

/-- The fragments of an article between its title and the end of its table. -/
def blocks (article : Article) : List Fragment :=
  article.paragraphs.map (.block .paragraph) ++
    (header article.kind ++ article.parameters.flatMap (rowCells article.kind)).map (.block .cell)

/-- An article as it is written, in front of a forest. -/
def forest (article : Article) (rest : Forest) : Forest :=
  .blocks "h4" [article.name] (.blocks "p" article.paragraphs
    (.table (header article.kind) (article.parameters.map (rowCells article.kind)) rest))

/-- Articles as the forest of a page. -/
def page (articles : List Article) : Forest := articles.foldr forest .nil

variable {article : Article} {articles : List Article}

theorem wellFormed_page (articles : List Article) (enclosing : List Text) :
    (page articles).WellFormed enclosing := by
  induction articles with
  | nil => trivial
  | cons article articles ih =>
    exact Forest.wellFormed_blocks (by decide) _ (Forest.wellFormed_blocks (by decide) _
      (Forest.wellFormed_table _ _ ih))

/-- The cells of a row are trimmed when its parameter is. -/
theorem WellFormed.isTrimmed_cells (h : article.WellFormed) {parameter : Parameter}
    (hparameter : parameter ∈ article.parameters) :
    ∀ text ∈ rowCells article.kind parameter, text.IsTrimmed := by
  obtain ⟨hname, hdeclaredType, hdescription⟩ := h.parameters parameter hparameter
  have hrequirement : (requirement parameter.required).IsTrimmed := by
    cases parameter.required <;> decide
  have hnil : ∀ text ∈ ([] : List Text), text.IsTrimmed := fun _ h ↦ absurd h List.not_mem_nil
  cases article.kind with
  | type =>
    exact List.forall_mem_cons.2 ⟨hname, List.forall_mem_cons.2 ⟨hdeclaredType,
      List.forall_mem_cons.2 ⟨hdescription, hnil⟩⟩⟩
  | function =>
    exact List.forall_mem_cons.2 ⟨hname, List.forall_mem_cons.2 ⟨hdeclaredType,
      List.forall_mem_cons.2 ⟨hrequirement, List.forall_mem_cons.2 ⟨hdescription, hnil⟩⟩⟩⟩

theorem WellFormed.fragments_forest (h : article.WellFormed) (rest : Forest) :
    (article.forest rest).fragments false false =
      .block .heading article.name ::
        (article.blocks ++ [.tableEnd] ++ rest.fragments false false) := by
  have hname : ∀ text ∈ [article.name], text.IsTrimmed := List.forall_mem_singleton.2 h.name
  have hparagraphs : ∀ text ∈ article.paragraphs, text.IsTrimmed :=
    fun text htext ↦ (h.paragraphs text htext).2
  have hheader : ∀ text ∈ header article.kind, text.IsTrimmed := by
    cases article.kind <;> decide
  have hcells : ∀ row ∈ article.parameters.map (rowCells article.kind), ∀ text ∈ row,
      text.IsTrimmed := by
    intro row hrow
    obtain ⟨parameter, hparameter, rfl⟩ := List.mem_map.1 hrow
    exact h.isTrimmed_cells hparameter
  have hheading : BlockKind.ofElement? "h4" = some .heading := by decide
  have hparagraph : BlockKind.ofElement? "p" = some .paragraph := by decide
  rw [forest, Forest.fragments_blocks (by decide) hheading hname,
    Forest.fragments_blocks (by decide) hparagraph hparagraphs,
    Forest.fragments_table hheader hcells, blocks, List.flatMap_def]
  simp

theorem exists_eq_of_mem_blocks {fragment : Fragment} (h : fragment ∈ article.blocks) :
    ∃ kind text, fragment = .block kind text ∧ kind ≠ .heading := by
  rcases List.mem_append.1 h with h | h <;> obtain ⟨text, -, rfl⟩ := List.mem_map.1 h
  · exact ⟨.paragraph, text, rfl, by decide⟩
  · exact ⟨.cell, text, rfl, by decide⟩

theorem isHeading_of_mem_blocks {fragment : Fragment}
    (h : fragment ∈ article.blocks ++ [.tableEnd]) : fragment.isHeading = false := by
  rcases List.mem_append.1 h with h | h
  · obtain ⟨kind, text, rfl, hkind⟩ := exists_eq_of_mem_blocks h
    cases kind with
    | heading => exact absurd rfl hkind
    | paragraph => rfl
    | cell => rfl
  · rw [List.mem_singleton.1 h]
    rfl

end Article

/-! ### Records of articles -/

theorem Record.ofFragments_heading_append (title : Text) {below rest : List Fragment}
    (hbelow : ∀ fragment ∈ below, fragment.isHeading = false)
    (hrest : ∀ fragment ∈ rest.head?, fragment.isHeading = true) :
    ofFragments (.block .heading title :: (below ++ rest)) =
      ofSection title below :: ofFragments rest := by
  rw [← List.cons_append, ofFragments_append _ hrest, ofFragments_heading_cons title hbelow,
    List.singleton_append]

namespace Article

variable {articles : List Article}

theorem ofSection_blocks (article : Article) :
    Record.ofSection article.name (article.blocks ++ [.tableEnd]) = article.record := by
  have hend : .tableEnd ∉ article.blocks := by
    intro hfragment
    obtain ⟨kind, text, htext, -⟩ := exists_eq_of_mem_blocks hfragment
    exact Fragment.noConfusion htext
  have htexts : texts article.blocks = article.record.body := by
    simp [texts, blocks, record, List.filterMap_append, List.filterMap_map, Function.comp_def,
      Fragment.text?]
  rw [Record.ofSection_append_tableEnd_cons _ hend, htexts]
  rfl

theorem ofFragments_page (h : ∀ article ∈ articles, article.WellFormed) :
    Record.ofFragments ((page articles).fragments false false) = articles.map record := by
  induction articles with
  | nil => rfl
  | cons article articles ih =>
    obtain ⟨harticle, harticles⟩ := List.forall_mem_cons.1 h
    -- The section of an article ends at the title of the next one.
    have hrest : ∀ fragment ∈ ((page articles).fragments false false).head?,
        fragment.isHeading = true := by
      cases articles with
      | nil => exact fun _ h ↦ absurd h (Option.not_mem_none _)
      | cons next articles =>
        have hnext := (harticles next List.mem_cons_self).fragments_forest (page articles)
        rw [page, List.foldr_cons, ← page, hnext]
        rintro fragment ⟨⟩
        rfl
    rw [page, List.foldr_cons, ← page, harticle.fragments_forest,
      Record.ofFragments_heading_append _ (fun _ ↦ isHeading_of_mem_blocks) hrest,
      ofSection_blocks, ih harticles, List.map_cons]

end Article

/-- A page has one record for each of its articles, whatever texts there are between its tags. -/
theorem records_of_interspersed {articles : List Article}
    (h : ∀ article ∈ articles, article.WellFormed) {g : Forest}
    (hg : Forest.Interspersed (Article.page articles) g) :
    records g.markup = articles.map Article.record := by
  rw [records, fragments_markup (hg.wellFormed (Article.wellFormed_page articles [])),
    hg.fragments_eq, Article.ofFragments_page h]

end ApiReference.Page
