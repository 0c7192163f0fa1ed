import ApiReference.Output.MessageDialect
import ApiReference.Output.StructDialect
import ApiReference.Proofs.Schema.ArrayTower

/-!
# Declared types in two dialects

The struct dialect can say every number of array dimensions, and the message dialect at most one.
Apart from that the two say the same of every declared type: they name the same base, and a base
that one of them cannot name is unknown to the other one too. An array of what some prose declares
is said by what the dialect puts in front of the type of its elements, whatever the prose is, except
where a message cannot say it at all.

## Main definitions

* `BaseNames`: the names of a base in the two dialects.
* `IsBytes`: the types of fields of messages that say nothing about the values.

## Main results

* `messageType_eq_append`: the type of a field of a message that is no union.
* `isBytes_messageType_iff`, `infix_structType_iff`: which types say nothing about the values.
* `dialects_agree`: the two dialects agree on every declared type.
* `arrays_of_prose`: the types of arrays, from the type of their elements.
-/

namespace ApiReference.Output

open Schema

/-- The names of a base in the struct dialect and in the message dialect. -/
inductive BaseNames : BaseType → Text → Text → Prop
  | integer : BaseNames (.scalar .integer) "int64" "int64"
  | float : BaseNames (.scalar .float) "float32" "float"
  | string : BaseNames (.scalar .string) "string" "string"
  | boolean : BaseNames (.scalar .boolean) "bool" "bool"
  | reference (name : Text) : BaseNames (.reference name) ('*' :: name) name

/-- The types of fields of messages that say nothing about the values. -/
def IsBytes (type : Text) : Prop := type = "bytes" ∨ type = "repeated bytes"

/-- A base that is known has a name in either dialect. -/
theorem baseNames_of_ne_any {base : BaseType} (h : base ≠ .any) :
    BaseNames base (structBase base) (messageBase base) := by
  cases base with
  | scalar scalar =>
    cases scalar with
    | integer => exact .integer
    | float => exact .float
    | string => exact .string
    | boolean => exact .boolean
  | reference name => exact .reference name
  | any => exact absurd rfl h

variable {opaqueNames : List Text} {declared : Text} {type : DeclaredType}

section Base

variable (htype : DeclaredType.ofText opaqueNames declared = type)
include htype

/-! ### Bases -/

/-- A loose union is of an unknown base. -/
theorem base_eq_any_of_looseUnion (h : type.looseUnion = true) : type.base = .any := by
  subst htype
  exact DeclaredType.base_eq_any_of_or_infix (Text.occurs_iff.1 h)

/-- The name of a definition starts with a capital, so that it cannot be taken for a word of the
message dialect. -/
theorem head?_ne_of_base_eq_reference {name : Text} {c : Char} (h : type.base = .reference name)
    (hc : Unicode.isUppercase c = false) : name.head? ≠ some c := by
  subst htype
  obtain ⟨-, hcapital⟩ := DeclaredType.isIdentifier_of_base_eq_reference h
  intro hhead
  simp [hhead, hc] at hcapital

theorem messageBase_ne_bytes (h : type.base ≠ .any) : messageBase type.base ≠ "bytes" := by
  cases hbase : type.base with
  | scalar scalar => cases scalar <;> decide
  | reference name =>
    intro hname
    have hhead : name.head? = some 'b' := congrArg List.head? hname
    exact head?_ne_of_base_eq_reference htype hbase (by decide) hhead
  | any => exact absurd hbase h

theorem not_repeated_prefix_messageBase : ¬ ("repeated " : Text) <+: messageBase type.base := by
  cases hbase : type.base with
  | scalar scalar => cases scalar <;> decide
  | reference name =>
    rintro ⟨rest, hrest⟩
    have hhead : name.head? = some 'r' := congrArg List.head? hrest.symm
    exact head?_ne_of_base_eq_reference htype hbase (by decide) hhead
  | any => decide

/-- The braces of the unknown base are in the name of no other one. -/
theorem brace_notMem_structBase (h : type.base ≠ .any) : '\x7b' ∉ structBase type.base := by
  cases hbase : type.base with
  | scalar scalar => cases scalar <;> decide
  | reference name =>
    subst htype
    obtain ⟨hidentifier, -⟩ := DeclaredType.isIdentifier_of_base_eq_reference hbase
    have hall := List.all_eq_true.1 (Bool.and_eq_true_iff.1 hidentifier).2
    intro hmem
    rcases List.mem_cons.1 hmem with hstar | hmem
    · revert hstar
      decide
    · exact absurd (hall _ hmem) (by decide)
  | any => exact absurd hbase h

/-! ### Types -/

/-- A type that is known and no array of arrays is the name of its base in a message, marked when it
is an array. -/
theorem messageType_eq_append (h : type.base ≠ .any) (hdimensions : type.dimensions < 2) :
    messageType type =
      (if type.dimensions = 1 then ("repeated " : Text) else []) ++ messageBase type.base := by
  have hunion : type.looseUnion = false := by
    cases hloose : type.looseUnion with
    | false => rfl
    | true => exact absurd (base_eq_any_of_looseUnion htype hloose) h
  have hmany : ¬ 1 < type.dimensions := by omega
  rw [messageType, hunion]
  simp only [Bool.false_or, gt_iff_lt, decide_eq_true_eq, if_neg hmany]
  split <;> rfl

/-- The types that become bytes are those of an unknown base and the arrays of arrays. -/
theorem isBytes_messageType_iff :
    IsBytes (messageType type) ↔ type.base = .any ∨ 2 ≤ type.dimensions := by
  constructor
  · intro hbytes
    refine Decidable.byContradiction fun hknown ↦ ?_
    obtain ⟨hbase, hdimensions⟩ := not_or.1 hknown
    have hne := messageBase_ne_bytes htype hbase
    rw [messageType_eq_append htype hbase (by omega)] at hbytes
    split at hbytes
    · rcases hbytes with hbytes | hbytes
      · have hhead := congrArg List.head? hbytes
        simp at hhead
      · exact hne (List.append_cancel_left hbytes)
    · rcases hbytes with hbytes | hbytes
      · exact hne hbytes
      · exact not_repeated_prefix_messageBase htype ⟨"bytes", hbytes.symm⟩
  · intro hunknown
    rw [IsBytes, messageType]
    split
    · exact .inl rfl
    · rename_i hsingle
      simp only [Bool.or_eq_true, decide_eq_true_eq, not_or] at hsingle
      have hbase : type.base = .any := hunknown.resolve_right hsingle.2
      rw [hbase]
      split
      · exact .inr rfl
      · exact .inl rfl

/-- The types of the struct dialect that have braces are those of an unknown base. -/
theorem infix_structType_iff :
    ("interface\x7b\x7d" : Text) <:+: structType type ↔ type.base = .any := by
  constructor
  · intro hinfix
    refine Decidable.byContradiction fun hbase ↦ ?_
    have hmem : '\x7b' ∈ structType type := hinfix.subset (by decide)
    rcases List.mem_append.1 hmem with hmem | hmem
    · obtain ⟨brackets, hbrackets, hmem⟩ := List.mem_flatten.1 hmem
      rw [List.eq_of_mem_replicate hbrackets] at hmem
      revert hmem
      decide
    · exact brace_notMem_structBase htype hbase hmem
  · intro hbase
    rw [structType, hbase]
    exact (List.suffix_append _ _).isInfix

end Base

/-- The two dialects agree on every declared type. A loose union is of an unknown base. A type
becomes bytes in a message when its base is unknown or it is an array of arrays. Otherwise both name
the same base, behind a pair of brackets for every dimension in the one dialect and marked as
repeated for the only dimension in the other. So a message knows a type when a struct knows it and
it has at most one dimension. -/
theorem dialects_agree (opaqueNames : List Text) (declared : Text) :
    let type := DeclaredType.ofText opaqueNames declared
    (type.looseUnion = true ↔ (" or" : Text) <:+: declared) ∧
    (type.looseUnion = true → type.base = .any) ∧
    (IsBytes (messageType type) ↔ type.base = .any ∨ 2 ≤ type.dimensions) ∧
    (type.base ≠ .any → type.dimensions < 2 → ∃ structName messageName,
      BaseNames type.base structName messageName ∧
      structType type = (List.replicate type.dimensions ['[', ']']).flatten ++ structName ∧
      messageType type =
        (if type.dimensions = 1 then ("repeated " : Text) else []) ++ messageName ∧
      (("repeated " : Text) <+: messageType type ↔ type.dimensions = 1)) ∧
    (¬ IsBytes (messageType type) ↔
      ¬ ("interface\x7b\x7d" : Text) <:+: structType type ∧ type.dimensions ≤ 1) := by
  intro type
  have htype : DeclaredType.ofText opaqueNames declared = type := rfl
  refine ⟨Text.occurs_iff, base_eq_any_of_looseUnion htype, isBytes_messageType_iff htype,
    fun hbase hdimensions ↦ ?_, ?_⟩
  · have hmessage := messageType_eq_append htype hbase hdimensions
    refine ⟨_, _, baseNames_of_ne_any hbase, rfl, hmessage, ?_⟩
    rw [hmessage]
    split
    · rename_i hone
      exact iff_of_true (List.prefix_append _ _) hone
    · rename_i hone
      exact iff_of_false (not_repeated_prefix_messageBase htype) hone
  · rw [isBytes_messageType_iff htype, infix_structType_iff htype, not_or]
    exact and_congr_right fun _ ↦ Nat.not_le.trans Nat.lt_succ_iff

/-! ### Arrays -/

section Arrays

variable (opaqueNames : List Text) (s : Text)

theorem structType_tower_append (k : Nat) :
    structType (.ofText opaqueNames ((List.replicate k arrayOf).flatten ++ s)) =
      (List.replicate k ['[', ']']).flatten ++ structType (.ofText opaqueNames s) := by
  rw [structType, DeclaredType.dimensions_tower_append, DeclaredType.base_tower_append,
    ← List.replicate_append_replicate, List.flatten_append, List.append_assoc, structType]

/-- An array of unions or of arrays cannot be said in a message. -/
theorem messageType_arrayOf_append_eq_bytes
    (h : DeclaredType.arrayWords <:+: s ∨ (" or" : Text) <:+: ' ' :: s) :
    messageType (.ofText opaqueNames (arrayOf ++ s)) = "bytes" := by
  have hmany : (DeclaredType.ofText opaqueNames (arrayOf ++ s)).looseUnion = true ∨
      1 < (DeclaredType.ofText opaqueNames (arrayOf ++ s)).dimensions := by
    rw [DeclaredType.looseUnion_arrayOf_append, DeclaredType.dimensions_arrayOf_append, or_comm,
      Text.occurs_iff]
    refine h.imp_left fun harray ↦ ?_
    have hdimensions : (DeclaredType.ofText opaqueNames s).dimensions ≠ 0 :=
      mt DeclaredType.dimensions_eq_zero_iff.1 (not_not_intro harray)
    omega
  rw [messageType, if_pos (by simpa using hmany)]

theorem messageType_arrayOf_append (harray : ¬ DeclaredType.arrayWords <:+: s)
    (hor : ¬ (" or" : Text) <:+: ' ' :: s) :
    messageType (.ofText opaqueNames (arrayOf ++ s)) =
      "repeated " ++ messageType (.ofText opaqueNames s) := by
  have hunion : (DeclaredType.ofText opaqueNames s).looseUnion = false :=
    Text.occurs_eq_false_iff.2 (mt List.infix_cons hor)
  have hunion' : (DeclaredType.ofText opaqueNames (arrayOf ++ s)).looseUnion = false := by
    rw [DeclaredType.looseUnion_arrayOf_append, Text.occurs_eq_false_iff.2 hor]
  have hdimensions : (DeclaredType.ofText opaqueNames s).dimensions = 0 :=
    DeclaredType.dimensions_eq_zero_iff.2 harray
  have hdimensions' : (DeclaredType.ofText opaqueNames (arrayOf ++ s)).dimensions = 1 := by
    rw [DeclaredType.dimensions_arrayOf_append, hdimensions]
  simp [messageType, hunion, hunion', hdimensions, hdimensions', DeclaredType.base_arrayOf_append]

end Arrays

/-- Any number of `Array of` in front of any prose keeps the base and adds as many dimensions, so
that the struct dialect has as many pairs of brackets in front. In a message a single one makes the
type repeated, unless the prose is an array itself or has an `or` behind a space or at its start:
then the type is bytes. -/
theorem arrays_of_prose (opaqueNames : List Text) (s : Text) :
    (∀ k,
      let elements := DeclaredType.ofText opaqueNames s
      let tower := DeclaredType.ofText opaqueNames ((List.replicate k arrayOf).flatten ++ s)
      tower.base = elements.base ∧ tower.dimensions = k + elements.dimensions ∧
        structType tower = (List.replicate k ['[', ']']).flatten ++ structType elements) ∧
    (¬ DeclaredType.arrayWords <:+: s ∧ ¬ (" or" : Text) <:+: ' ' :: s →
      messageType (.ofText opaqueNames (arrayOf ++ s)) =
        "repeated " ++ messageType (.ofText opaqueNames s)) ∧
    (DeclaredType.arrayWords <:+: s ∨ (" or" : Text) <:+: ' ' :: s →
      messageType (.ofText opaqueNames (arrayOf ++ s)) = "bytes") :=
  ⟨fun k ↦ ⟨DeclaredType.base_tower_append opaqueNames k s,
      DeclaredType.dimensions_tower_append opaqueNames k s,
      structType_tower_append opaqueNames s k⟩,
    fun h ↦ messageType_arrayOf_append opaqueNames s h.1 h.2,
    messageType_arrayOf_append_eq_bytes opaqueNames s⟩

end ApiReference.Output
