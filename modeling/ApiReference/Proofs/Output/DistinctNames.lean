import ApiReference.Proofs.Output.SnakeCase
import ApiReference.Proofs.Text.Run
import ApiReference.Schema.Definition
import Mathlib.Data.List.Nodup
import Mathlib.Data.Set.Function
import Mathlib.Tactic.FinCases

/-!
# Distinct names

Nothing stands between the words of an exported name, and yet the words can be told from the name if
each of them has at least two characters. A capital starts a word. Another capital behind it shows
that the word is an initialism, and of these none starts as another one does. Any other word goes on
up to the next capital. So parameters of different names have different exported names, and as their
first letters tell the local names that are exported ones from those that are not, they have
different local names too.

One letter would not be enough for a word, as `i_d` and `id` have the same exported name.

## Main definitions

* `HasLongWords`: a name whose words have at least two characters.

## Main results

* `eq_of_exportedWord_append`: the first word of an exported name.
* `eq_of_exportedName_eq`, `exportedName_eq_of_localName_eq`: the name of a parameter can be told
  from its exported name, and this from its local name.
* `injOn_exportedName_localName`: different parameters have different names in the output.
-/

namespace ApiReference.Output

open Schema Text

variable {word word' name name' s s' : Text} {words words' : List Text}

/-- A name whose words have at least two characters. -/
def HasLongWords (name : Text) : Prop := ∀ word ∈ split '_' name, 2 ≤ word.length

instance (name : Text) : Decidable (HasLongWords name) :=
  inferInstanceAs (Decidable (∀ word ∈ split '_' name, 2 ≤ word.length))

/-! ### The words of an exported name -/

/-- The second character of an exported word is a capital in initialisms only. -/
theorem isUpper_second_iff (h : IsSnakeWord word) (hlength : 2 ≤ word.length) (s : Text) :
    (∃ c ∈ (exportedWord word ++ s)[1]?, c.isUpper) ↔ word ∈ initialisms := by
  by_cases hmem : word ∈ initialisms
  · refine iff_of_true ?_ hmem
    fin_cases hmem
    · exact ⟨'D', rfl, rfl⟩
    · exact ⟨'R', rfl, rfl⟩
    · exact ⟨'P', rfl, rfl⟩
  · refine iff_of_false ?_ hmem
    obtain ⟨c, rest, rfl, hc, hrest⟩ := h.exists_eq_cons
    obtain ⟨d, rest, rfl⟩ := List.exists_cons_of_length_pos (Nat.le_of_succ_le_succ hlength)
    rw [exportedWord_cons hc hrest hmem]
    rintro ⟨second, hsecond, hupper⟩
    obtain rfl : d = second := Option.some.inj hsecond
    rw [isUpper_eq_false_of_isSmall (hrest d List.mem_cons_self)] at hupper
    cases hupper

/-- A capitalized word is known from its capital and the small characters behind it. -/
theorem eq_of_capitalized_append {c c' : Char} {rest rest' : Text} (hc : c.isLower)
    (hc' : c'.isLower) (hrest : ∀ d ∈ rest, isSmall d) (hrest' : ∀ d ∈ rest', isSmall d)
    (hs : ∀ d ∈ s.head?, d.isUpper) (hs' : ∀ d ∈ s'.head?, d.isUpper)
    (h : c.toUpper :: rest ++ s = c'.toUpper :: rest' ++ s') : c :: rest = c' :: rest' := by
  have hstop {t : Text} (ht : ∀ d ∈ t.head?, d.isUpper) : ∀ d ∈ t.head?, isSmall d = false :=
    fun d hd ↦ Bool.eq_false_iff.2 fun hsmall ↦
      Bool.false_ne_true ((isUpper_eq_false_of_isSmall hsmall).symm.trans (ht d hd))
  rw [List.cons_append, List.cons_append, List.cons.injEq] at h
  obtain ⟨hcapital, hbehind⟩ := h
  have hrun := congrArg (List.takeWhile isSmall) hbehind
  rw [takeWhile_append_stop hrest (hstop hs), takeWhile_append_stop hrest' (hstop hs')] at hrun
  rw [hrun, ← Unicode.toLower_toUpper hc, hcapital, Unicode.toLower_toUpper hc']

/-- No initialism in capitals starts with another one. -/
theorem eq_of_exportedWord_starts : ∀ word ∈ initialisms, ∀ word' ∈ initialisms,
    exportedWord word <+: exportedWord word' → word = word' := by
  decide +kernel

/-- The first word of an exported name, and what is behind it, can be told from the name. -/
theorem eq_of_exportedWord_append (hword : IsSnakeWord word) (hword' : IsSnakeWord word')
    (hlength : 2 ≤ word.length) (hlength' : 2 ≤ word'.length) (hs : ∀ c ∈ s.head?, c.isUpper)
    (hs' : ∀ c ∈ s'.head?, c.isUpper) (h : exportedWord word ++ s = exportedWord word' ++ s') :
    word = word' ∧ s = s' := by
  have hmem_iff : word ∈ initialisms ↔ word' ∈ initialisms := by
    rw [← isUpper_second_iff hword hlength s, h, isUpper_second_iff hword' hlength' s']
  have hwords : word = word' := by
    by_cases hmem : word ∈ initialisms
    · have hmem' := hmem_iff.1 hmem
      rcases List.prefix_or_prefix_of_prefix (List.prefix_append _ s)
        (h ▸ List.prefix_append (exportedWord word') s') with hstarts | hstarts
      · exact eq_of_exportedWord_starts word hmem word' hmem' hstarts
      · exact (eq_of_exportedWord_starts word' hmem' word hmem hstarts).symm
    · obtain ⟨c, rest, rfl, hc, hrest⟩ := hword.exists_eq_cons
      obtain ⟨c', rest', rfl, hc', hrest'⟩ := hword'.exists_eq_cons
      rw [exportedWord_cons hc hrest hmem, exportedWord_cons hc' hrest' (mt hmem_iff.2 hmem)] at h
      exact eq_of_capitalized_append hc hc' hrest hrest' hs hs' h
  subst hwords
  exact ⟨rfl, List.append_cancel_left h⟩

theorem head?_flatMap_exportedWord (h : ∀ word ∈ words, IsSnakeWord word) :
    ∀ c ∈ (words.flatMap exportedWord).head?, c.isUpper := by
  cases words with
  | nil => simp
  | cons word words =>
    obtain ⟨c, rest, hword, hc⟩ := exists_exportedWord_eq_cons (h word List.mem_cons_self)
    simpa [hword] using hc

/-- All the words can be told, one after the other. -/
theorem eq_of_flatMap_exportedWord_eq (h : ∀ word ∈ words, IsSnakeWord word ∧ 2 ≤ word.length)
    (h' : ∀ word ∈ words', IsSnakeWord word ∧ 2 ≤ word.length)
    (heq : words.flatMap exportedWord = words'.flatMap exportedWord) : words = words' := by
  have hne {word : Text} (hword : IsSnakeWord word) (s : Text) : exportedWord word ++ s ≠ [] := by
    obtain ⟨c, rest, hexported, -⟩ := exists_exportedWord_eq_cons hword
    simp [hexported]
  induction words generalizing words' with
  | nil =>
    cases words' with
    | nil => rfl
    | cons word' words' => exact absurd heq.symm (hne (h' word' List.mem_cons_self).1 _)
  | cons word words ih =>
    cases words' with
    | nil => exact absurd heq (hne (h word List.mem_cons_self).1 _)
    | cons word' words' =>
      obtain ⟨⟨hword, hlength⟩, hwords⟩ := List.forall_mem_cons.1 h
      obtain ⟨⟨hword', hlength'⟩, hwords'⟩ := List.forall_mem_cons.1 h'
      obtain ⟨rfl, hbehind⟩ := eq_of_exportedWord_append hword hword' hlength hlength'
        (head?_flatMap_exportedWord fun w hw ↦ (hwords w hw).1)
        (head?_flatMap_exportedWord fun w hw ↦ (hwords' w hw).1) heq
      rw [ih hwords hwords' hbehind]

/-! ### Names -/

theorem eq_of_exportedName_eq (hname : IsSnakeName name) (hname' : IsSnakeName name')
    (hlong : HasLongWords name) (hlong' : HasLongWords name')
    (h : exportedName name = exportedName name') : name = name' := by
  rw [exportedName_eq hname, exportedName_eq hname'] at h
  have hsplit := eq_of_flatMap_exportedWord_eq
    (fun word hword ↦ ⟨hname word hword, hlong word hword⟩)
    (fun word hword ↦ ⟨hname' word hword, hlong' word hword⟩) h
  rw [← intercalate_split '_' name, hsplit, intercalate_split]

/-- A local name is the exported name when it starts with a capital. Otherwise this has the capital
of its first letter. -/
theorem exportedName_eq_of_localName_eq (hname : IsSnakeName name) (hname' : IsSnakeName name')
    (h : localName name = localName name') : exportedName name = exportedName name' := by
  obtain ⟨c, rest, hexported, hc, hlocal⟩ := exists_exportedName_eq_cons hname
  obtain ⟨c', rest', hexported', hc', hlocal'⟩ := exists_exportedName_eq_cons hname'
  have hne {d d' : Char} (hd : d.isUpper) (hd' : d'.isUpper) : d ≠ d'.toLower := by
    rintro rfl
    have hsmall := isSmall_of_isLower (Unicode.isLower_toLower hd')
    simp [isUpper_eq_false_of_isSmall hsmall] at hd
  rw [hexported, hexported']
  rcases hlocal with hlocal | hlocal <;> rcases hlocal' with hlocal' | hlocal' <;>
    rw [hlocal, hlocal', List.cons.injEq] at h
  · rw [h.1, h.2]
  · exact absurd h.1 (hne hc hc')
  · exact absurd h.1.symm (hne hc' hc)
  · rw [← Unicode.toUpper_toLower hc, h.1, Unicode.toUpper_toLower hc', h.2]

/-- Two different names in snake case, of words with at least two characters, never get the same
exported name or the same local name. So the fields of a structure have different names, and so do
the parameters of a function, when the parameters of the definition have different names of this
form. -/
theorem injOn_exportedName_localName :
    Set.InjOn exportedName {name | IsSnakeName name ∧ HasLongWords name} ∧
    Set.InjOn localName {name | IsSnakeName name ∧ HasLongWords name} ∧
    ∀ definition : Definition, (definition.parameters.map Parameter.name).Nodup →
      (∀ parameter ∈ definition.parameters,
        IsSnakeName parameter.name ∧ HasLongWords parameter.name) →
      (definition.parameters.map fun parameter ↦ exportedName parameter.name).Nodup ∧
      (definition.parameters.map fun parameter ↦ localName parameter.name).Nodup := by
  have hexported : Set.InjOn exportedName {name | IsSnakeName name ∧ HasLongWords name} :=
    fun name hname name' hname' h ↦ eq_of_exportedName_eq hname.1 hname'.1 hname.2 hname'.2 h
  have hlocal : Set.InjOn localName {name | IsSnakeName name ∧ HasLongWords name} :=
    fun name hname name' hname' h ↦
      hexported hname hname' (exportedName_eq_of_localName_eq hname.1 hname'.1 h)
  have hnodup {f : Text → Text} (hf : Set.InjOn f {name | IsSnakeName name ∧ HasLongWords name})
      {definition : Definition} (hnames : (definition.parameters.map Parameter.name).Nodup)
      (hparameters : ∀ parameter ∈ definition.parameters,
        IsSnakeName parameter.name ∧ HasLongWords parameter.name) :
      (definition.parameters.map fun parameter ↦ f parameter.name).Nodup := by
    have hmem : ∀ name ∈ definition.parameters.map Parameter.name,
        IsSnakeName name ∧ HasLongWords name := List.forall_mem_map.2 hparameters
    have hmap := hnames.map_on fun name hname name' hname' ↦ hf (hmem name hname) (hmem name' hname')
    rwa [List.map_map] at hmap
  exact ⟨hexported, hlocal, fun definition hnames hparameters ↦
    ⟨hnodup hexported hnames hparameters, hnodup hlocal hnames hparameters⟩⟩

/-- An initialism, a word that starts with one, and names that differ in an underscore. -/
theorem nodup_exportedName_of_webhook :
    (["ip", "ipv4", "user_id", "userid"].map fun name : String ↦ exportedName name).Nodup ∧
      (["ip", "ipv4", "user_id", "userid"].map fun name : String ↦ localName name).Nodup := by
  let parameter (name : String) : Parameter := ⟨name, "String", true, ""⟩
  exact injOn_exportedName_localName.2.2
    ⟨"Webhook", "", ["ip", "ipv4", "user_id", "userid"].map parameter, .type⟩
    (by decide) (by decide)

example : IsSnakeName "i_d" ∧ exportedName "i_d" = exportedName "id" := by decide +kernel

end ApiReference.Output
