import ApiReference.Proofs.Output.TypeDialects
import ApiReference.Proofs.Schema.NamedType
import ApiReference.Proofs.Schema.ResultSearch

/-!
# Results in signatures

The result that a description names is always understood. It is a capitalized word behind a number
of `Array of`, and as a declared type it has these dimensions and the base that the word stands for.
So the signature of a function shows an unknown type only for a word that is said to have no single
shape.

## Main results

* `signature_suffix_of_resultType?`: the result in the signature of a function.
* `resultType?_resolves`: the declared type of the result that a description names.
-/

namespace ApiReference.Output

open Schema

/-- A signature ends with the result that the description names. -/
theorem Style.signature_suffix_of_resultType? (style : Style) {definition : Definition}
    {result : Text} (h : definition.resultType? = some result) :
    (" (" ++ style.structTypeOf result ++ ", error)" : Text) <:+ style.signature definition := by
  have hsignature : style.signature definition =
      ("func " ++ definition.name ++ "(" ++ style.argumentList definition.parameters ++ ")") ++
        (" (" ++ style.structTypeOf result ++ ", error)") := by
    unfold signature
    rw [h]
    simp
  rw [hsignature]
  exact List.suffix_append _ _

/-- The result that a description names stands in the description. It is a word behind a number of
`Array of`, and it means a declared type of as many dimensions that is no union. Its base is the
scalar of the word if there is one, unknown if the word is one of no single shape, and otherwise the
definition of that name. So the signature of a function with the description ends with a result that
is unknown only for a word of no single shape. -/
theorem resultType?_resolves (opaqueNames : List Text) {description result : Text}
    (h : resultType? description = some result) :
    ∃ type : NamedType, type.text = result ∧ result <:+: description ∧
      (DeclaredType.ofText opaqueNames result).dimensions = type.dimensions ∧
      (DeclaredType.ofText opaqueNames result).looseUnion = false ∧
      (DeclaredType.ofText opaqueNames result).base =
        (match scalarNames.lookup type.word with
        | some known => .scalar known
        | none =>
          if type.word ∈ shapelessNames ∨ type.word ∈ opaqueNames then .any
          else .reference type.word) ∧
      ∀ (style : Style) (definition : Definition), style.opaqueNames = opaqueNames →
        definition.description = description →
        (" (" ++ style.structTypeOf result ++ ", error)" : Text) <:+ style.signature definition ∧
        (("interface\x7b\x7d" : Text) <:+: style.structTypeOf result →
          type.word ∈ shapelessNames ∨ type.word ∈ opaqueNames) := by
  obtain ⟨type, rfl, hinfix⟩ := exists_text_infix_of_resultType? h
  have hmeaning := DeclaredType.ofText_text opaqueNames type
  have hbase := BaseType.ofName_of_isCapitalized opaqueNames type.isCapitalized
  refine ⟨type, rfl, hinfix, by rw [hmeaning], by rw [hmeaning], by rw [hmeaning]; exact hbase, ?_⟩
  rintro style definition rfl rfl
  refine ⟨style.signature_suffix_of_resultType? h, fun hunknown ↦ ?_⟩
  rw [Style.structTypeOf, infix_structType_iff rfl, hmeaning, hbase] at hunknown
  by_contra hshape
  cases hscalar : scalarNames.lookup type.word <;> simp [hscalar, hshape] at hunknown

/-- The last `Array` of a result is a word by itself, which refers to a definition. -/
theorem signature_of_arrays :
    let definition : Definition :=
      ⟨"getGrid", "On success, an Array of Array of Array objects is returned.", [], .function⟩
    definition.resultType? = some ("Array of Array of Array" : Text) ∧
      (" ([][]*Array, error)" : Text) <:+ Style.signature {} definition := by
  intro definition
  have hresult : definition.resultType? = some ("Array of Array of Array" : Text) := by
    decide +kernel
  have hshown : (" (" ++ Style.structTypeOf {} "Array of Array of Array" ++ ", error)" : Text) =
      " ([][]*Array, error)" := by
    decide +kernel
  obtain ⟨_, -, -, -, -, -, hsignature⟩ := resultType?_resolves [] hresult
  obtain ⟨hsuffix, -⟩ := hsignature {} definition rfl rfl
  rw [hshown] at hsuffix
  exact ⟨hresult, hsuffix⟩

end ApiReference.Output
