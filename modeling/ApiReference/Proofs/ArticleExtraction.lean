import ApiReference.Proofs.Extraction
import ApiReference.Proofs.Page.Article
import ApiReference.Proofs.Page.TableRows

/-!
# What is extracted from articles

The definitions that are extracted from a page of articles are the definitions that the articles are
about: what has been written is read back, in the order of the keys. No text of an article can be
taken for a mark of the page. A header is only found where it was written, because no cell but the
first of a header can be the first of another.

## Main results

* `Article.WellFormed.not_headerAt_record`: no header stands before the table of an article.
* `Article.WellFormed.definition?_record`: the record of an article is its definition.
* `extract_of_interspersed`: the definitions of a page of articles.
-/

namespace ApiReference.Page

open Schema

/-! ### The header of an article -/

/-- No cell but the first of a header is the first of one. -/
theorem head?_header_notMem_tail (kind other : Kind) :
    ∀ first ∈ (header kind).head?, first ∉ (header other).tail := by
  cases kind <;> cases other <;> decide

namespace Article

variable {article : Article}

/-- No header stands before the table of an article. -/
theorem WellFormed.not_headerAt_record (h : article.WellFormed) :
    ∀ earlier < article.paragraphs.length, ∀ other,
      ¬ HeaderAt other article.record.body earlier := by
  intro earlier hearlier other hheader
  let behind := header article.kind ++ article.parameters.flatMap (rowCells article.kind)
  have hdrop : article.record.body.drop earlier = article.paragraphs.drop earlier ++ behind :=
    List.drop_append_of_le_length hearlier.le
  rw [HeaderAt, hdrop] at hheader
  have hparagraphs : ¬ header other <+: article.paragraphs.drop earlier := by
    rintro ⟨rest, hrest⟩
    exact h.no_header other ⟨article.paragraphs.take earlier, rest, by
      rw [List.append_assoc, hrest, List.take_append_drop]⟩
  rcases List.prefix_or_prefix_of_prefix hheader (List.prefix_append _ behind) with hprefix |
    ⟨after, hafter⟩
  · exact hparagraphs hprefix
  -- The header would start among the paragraphs and go on in the header of the article.
  · rw [← hafter, List.prefix_append_right_inj] at hheader
    cases after with
    | nil => exact hparagraphs (by rw [← hafter, List.append_nil])
    | cons first after =>
      have hfirst : first ∈ (header article.kind).head? := by
        obtain ⟨rest, hrest⟩ := hheader
        have hne : header article.kind ≠ [] := by cases article.kind <;> decide
        have hhead : behind.head? = (header article.kind).head? :=
          List.head?_append_of_ne_nil _ hne
        rw [Option.mem_def, ← hhead, ← hrest]
        rfl
      have htail : first ∈ (header other).tail := by
        have hne : article.paragraphs.drop earlier ≠ [] := by
          rw [ne_eq, List.drop_eq_nil_iff]
          omega
        rw [← hafter, List.tail_append_of_ne_nil hne]
        exact List.mem_append_right _ List.mem_cons_self
      exact head?_header_notMem_tail article.kind other first hfirst htail

end Article

/-! ### The rows of an article -/

theorem describes_rowCells {kind : Kind} {parameter : Parameter}
    (h : kind = .type →
      (parameter.required = false ↔ ("Optional" : Text) <+: parameter.description)) :
    Describes kind (rowCells kind parameter) parameter := by
  cases kind with
  | type =>
    refine ⟨rfl, rfl, rfl, rfl, ?_⟩
    rw [← Bool.not_eq_false, h rfl]
    simp [IsRequired, rowCells]
  | function =>
    have hrequirement : parameter.required = true ↔
        Text.asciiLower (requirement parameter.required) = "yes" := by
      cases parameter.required <;> decide
    exact ⟨rfl, rfl, rfl, rfl, hrequirement.trans (by simp [IsRequired, rowCells])⟩

namespace Article

variable {article : Article}

theorem WellFormed.table?_record (h : article.WellFormed) :
    article.record.table? = some ⟨article.kind, article.paragraphs,
      article.parameters.flatMap (rowCells article.kind)⟩ :=
  ParameterTable.find?_append h.not_headerAt_record

theorem WellFormed.parameters_eq (h : article.WellFormed) (preamble : List Text) :
    ParameterTable.parameters ⟨article.kind, preamble,
      article.parameters.flatMap (rowCells article.kind)⟩ = article.parameters :=
  ParameterTable.parameters_flatMap fun parameter hparameter ↦
    describes_rowCells fun hkind ↦ h.required hkind parameter hparameter

/-- The record of an article is the definition that the article is about. -/
theorem WellFormed.definition?_record (h : article.WellFormed) :
    article.record.definition? = some article.definition := by
  have hparagraphs : article.paragraphs.filter (!·.isEmpty) = article.paragraphs :=
    List.filter_eq_self.2 fun paragraph hparagraph ↦ by
      simpa using (h.paragraphs paragraph hparagraph).1
  refine Record.definition?_eq_some_iff.2 ⟨_, h.table?_record, ?_, ?_⟩
  · rw [h.parameters_eq]
    exact h.parameters_ne_nil
  · rw [h.parameters_eq, ParameterTable.description, hparagraphs]
    rfl

end Article

end ApiReference.Page

namespace ApiReference

open Page Schema Markup

/-- The definitions that are extracted from a page of articles are those that the articles are
about, in the stable order of their keys, whatever texts there are between the tags of the page. -/
theorem extract_of_interspersed (articles : List Article)
    (h : ∀ article ∈ articles, article.WellFormed) (page : Forest)
    (hpage : Forest.Interspersed (Article.page articles) page) :
    ∃ result, extract {} page.markup = .ok result ∧
      Definition.IsStablySorted (articles.map Article.definition) result.definitions := by
  have hdefinitions : (articles.map Article.record).filterMap Record.definition? =
      articles.map Article.definition := by
    rw [List.filterMap_map, ← List.filterMap_eq_map]
    exact List.filterMap_congr fun article harticle ↦ (h article harticle).definition?_record
  have hwanted : Selection.wanted {} (records page.markup) = articles.map Article.definition := by
    rw [records_of_interspersed h hpage]
    exact hdefinitions
  refine ⟨_, Selection.extract_of_chooses (.all true _), ?_⟩
  rw [← hwanted]
  exact Definition.isStablySorted_sorted _

/-- A type with one field, whose name has to be escaped and whose type is missing. -/
theorem extract_of_field_page :
    ∃ result, extract {} (("<h4>A &amp; B</h4>\n<p>Field</p><table><tr><th>Field</th>" : Text) ++
          "<th>Type</th><th>Description</th></tr>\n<tr><td>id</td><td></td>" ++
          "<td>Optional</td></tr></table>") = .ok result ∧
      Definition.IsStablySorted [⟨"A & B", "Field", [⟨"id", "", false, "Optional"⟩], .type⟩]
        result.definitions := by
  let article : Article := ⟨"A & B", ["Field"], [⟨"id", "", false, "Optional"⟩], .type⟩
  let page : Forest := .blocks "h4" ["A & B"] (.leaf (.text "\n") (.blocks "p" ["Field"]
    (.enclose "table" (.row "th" (header .type) (.leaf (.text "\n")
      (.row "td" ["id", "", "Optional"] .nil))) .nil)))
  have hpage : Forest.Interspersed (Article.page [article]) page :=
    .block _ _ _ rfl (.text "\n" (by decide) (by decide) (.block _ _ _ rfl (.element _ _ rfl
      (.element _ _ rfl (.block _ _ _ rfl (.block _ _ _ rfl (.block _ _ _ rfl .nil)))
        (.text "\n" (by decide) (by decide) (.element _ _ rfl
          (.block _ _ _ rfl (.block _ _ _ rfl (.block _ _ _ rfl .nil))) .nil))) .nil)))
  have hmarkup : page.markup =
      ("<h4>A &amp; B</h4>\n<p>Field</p><table><tr><th>Field</th>" : Text) ++
        "<th>Type</th><th>Description</th></tr>\n<tr><td>id</td><td></td>" ++
        "<td>Optional</td></tr></table>" := by
    decide +kernel
  rw [← hmarkup]
  exact extract_of_interspersed [article] (by decide) page hpage

end ApiReference
