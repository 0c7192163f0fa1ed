import ApiReference.Output.MessageDialect
import ApiReference.Output.StructDialect
import ApiReference.Proofs.Schema.DeclaredType
import ApiReference.Proofs.Text.Line
import ApiReference.Proofs.Unicode.CodePoint

/-!
# Texts inside a line

A text without newlines and slashes stands inside one line and starts no comment. What is written
for the names and the types of parameters is such a text: a type always, whatever prose declares it,
and a name in either of its forms if the name is one itself. For that the case mappings must not
lead to a newline or a slash, and indeed all images in their tables lie beyond the slash.

## Main definitions

* `IsInline`: a text without newlines and slashes.

## Main results

* `isInline_upper`, `isInline_lower`: the case mappings keep to the line.
* `isInline_exportedName`, `isInline_localName`: the forms of a name.
* `Style.isInline_structTypeOf`, `Style.isInline_messageTypeOf`: the types.
-/

namespace ApiReference.Output

open Schema

/-- A character that neither ends a line nor belongs to the mark of a comment. -/
def IsInlineChar (c : Char) : Prop := c ≠ '\n' ∧ c ≠ '/'

/-- A text inside a line that starts no comment. -/
def IsInline (s : Text) : Prop := ∀ c ∈ s, IsInlineChar c

instance (c : Char) : Decidable (IsInlineChar c) :=
  inferInstanceAs (Decidable (c ≠ '\n' ∧ c ≠ '/'))

instance (s : Text) : Decidable (IsInline s) :=
  decidable_of_iff (s.all fun c ↦ decide (IsInlineChar c)) (by simp [IsInline])

variable {s t : Text} {c : Char}

@[simp] theorem isInline_append : IsInline (s ++ t) ↔ IsInline s ∧ IsInline t :=
  List.forall_mem_append

@[simp] theorem isInline_cons : IsInline (c :: s) ↔ IsInlineChar c ∧ IsInline s :=
  List.forall_mem_cons

theorem IsInline.newline_not_mem (h : IsInline s) : '\n' ∉ s := fun hmem ↦ (h _ hmem).1 rfl

theorem isInline_flatMap {f : Char → Text} (hs : IsInline s)
    (hf : ∀ c, IsInlineChar c → IsInline (f c)) : IsInline (s.flatMap f) := fun d hd ↦ by
  obtain ⟨c, hc, hd⟩ := List.mem_flatMap.1 hd
  exact hf c (hs c hc) d hd

/-! ### Case mappings -/

theorem isInlineChar_of_le_toNat (h : 0x30 ≤ c.toNat) : IsInlineChar c := by
  constructor <;> rintro rfl <;> revert h <;> decide

/-- What is beyond the slash stays inside the line. A number that is no code point does so too, as
it stands for the null character. -/
theorem isInlineChar_ofNat {code : Nat} (h : 0x30 ≤ code) : IsInlineChar (Char.ofNat code) := by
  by_cases hvalid : code.isValidChar
  · have hcode : Char.ofNat code = Char.ofNatAux code hvalid := dif_pos hvalid
    exact isInlineChar_of_le_toNat (hcode ▸ h)
  · have hnull : Char.ofNat code = '\x00' := dif_neg hvalid
    exact hnull ▸ (by decide)

/-- A mapping whose tables lead beyond the slash keeps characters inside the line. -/
theorem isInline_mapped {expansions : List (Nat × List Nat)}
    {shifts alternatingShifts : List (Nat × Nat × Nat)}
    (hexpansions : ∀ entry ∈ expansions, ∀ code ∈ entry.2, 0x30 ≤ code)
    (hshifts : ∀ entry ∈ shifts ++ alternatingShifts, 0x30 ≤ entry.2.2) (hc : IsInlineChar c) :
    IsInline (Unicode.mapped expansions shifts alternatingShifts c) := by
  intro d hd
  rw [Unicode.mapped] at hd
  split at hd
  · rename_i codes hcodes
    obtain ⟨before, behind, rfl, -⟩ := List.lookup_eq_some_iff.1 hcodes
    obtain ⟨code, hcode, rfl⟩ := List.mem_map.1 hd
    exact isInlineChar_ofNat (hexpansions (c.toNat, codes) (by simp) code hcode)
  · dsimp only at hd
    split at hd
    · rename_i first last image hentry
      rw [List.mem_singleton.1 hd]
      have hmem : (first, last, image) ∈ shifts ++ alternatingShifts := by
        rcases Option.or_eq_some_iff.1 hentry with h | ⟨-, h⟩
        · exact List.mem_append_left _ (List.mem_of_find?_eq_some h)
        · exact List.mem_append_right _ (List.mem_of_find?_eq_some h)
      exact isInlineChar_ofNat (Nat.le_add_right_of_le (hshifts _ hmem))
    · rw [List.mem_singleton.1 hd]
      exact hc

theorem isInline_upper (hc : IsInlineChar c) : IsInline (Unicode.upper c) := by
  rw [Unicode.upper]
  split
  · rename_i hascii
    exact Unicode.forall_of_forall_code (p := fun c ↦ IsInlineChar c → IsInline [c.toUpper]) 0x80
      (by decide) c hascii hc
  · exact isInline_mapped (by decide +kernel) (by decide +kernel) hc

theorem isInline_lower (hc : IsInlineChar c) : IsInline (Unicode.lower c) := by
  rw [Unicode.lower]
  split
  · rename_i hascii
    exact Unicode.forall_of_forall_code (p := fun c ↦ IsInlineChar c → IsInline [c.toLower]) 0x80
      (by decide) c hascii hc
  · exact isInline_mapped (by decide +kernel) (by decide +kernel) hc

/-! ### Names -/

theorem isInlineChar_of_isAlphanumeric (h : Unicode.isAlphanumeric c || c == '_') :
    IsInlineChar c := by
  constructor <;> rintro rfl <;> revert h <;> decide

theorem isInline_exportedWord (hs : IsInline s) : IsInline (exportedWord s) := by
  unfold exportedWord
  split
  · exact isInline_flatMap hs fun c hc ↦ isInline_upper hc
  · cases s with
    | nil => exact hs
    | cons c rest =>
      obtain ⟨hc, hrest⟩ := isInline_cons.1 hs
      exact isInline_append.2 ⟨isInline_upper hc, hrest⟩

theorem isInline_exportedName (hs : IsInline s) : IsInline (exportedName s) := by
  intro d hd
  obtain ⟨word, hword, hd⟩ := List.mem_flatMap.1 hd
  have hsubset := Text.subset_of_mem_split (List.mem_filter.1 hword).1
  exact isInline_exportedWord (fun c hc ↦ hs c (hsubset hc)) d hd

theorem isInline_localName (hs : IsInline s) : IsInline (localName s) := by
  have hexported := isInline_exportedName hs
  simp only [localName]
  split
  · exact hexported
  · cases hname : exportedName s with
    | nil => exact List.forall_mem_nil _
    | cons c rest =>
      rw [hname] at hexported
      obtain ⟨hc, hrest⟩ := isInline_cons.1 hexported
      exact isInline_append.2 ⟨isInline_lower hc, hrest⟩

/-! ### Types -/

/-- A definition is referred to by a word of letters, numbers and underscores. -/
theorem isInline_of_base_eq_reference {opaqueNames : List Text} {declared name : Text}
    (h : (DeclaredType.ofText opaqueNames declared).base = .reference name) : IsInline name := by
  obtain ⟨hidentifier, -⟩ := DeclaredType.isIdentifier_of_base_eq_reference h
  have hall := List.all_eq_true.1 (Bool.and_eq_true_iff.1 hidentifier).2
  exact fun c hc ↦ isInlineChar_of_isAlphanumeric (hall c hc)

variable (style : Style) (declared : Text)

theorem Style.isInline_structTypeOf : IsInline (style.structTypeOf declared) := by
  rw [structTypeOf, structType, isInline_append]
  constructor
  · intro c hc
    obtain ⟨brackets, hbrackets, hc⟩ := List.mem_flatten.1 hc
    rw [List.eq_of_mem_replicate hbrackets] at hc
    exact (show IsInline ['[', ']'] by decide) c hc
  · cases hbase : (DeclaredType.ofText style.opaqueNames declared).base with
    | scalar scalar => cases scalar <;> decide
    | reference name =>
      exact isInline_cons.2 ⟨by decide, isInline_of_base_eq_reference hbase⟩
    | any => decide

theorem Style.isInline_messageTypeOf : IsInline (style.messageTypeOf declared) := by
  have hbase : IsInline (messageBase (DeclaredType.ofText style.opaqueNames declared).base) := by
    cases hbase : (DeclaredType.ofText style.opaqueNames declared).base with
    | scalar scalar => cases scalar <;> decide
    | reference name => exact isInline_of_base_eq_reference hbase
    | any => decide
  rw [messageTypeOf, messageType]
  split
  · decide
  · split
    · exact isInline_append.2 ⟨by decide, hbase⟩
    · exact hbase

end ApiReference.Output
