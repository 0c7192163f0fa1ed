import ApiReference.Output.Rendering
import ApiReference.Proofs.Output.JsonReading
import ApiReference.Proofs.Text.Run
import ApiReference.Proofs.Unicode.CodePoint
import Mathlib.Data.List.Forall2

/-!
# Reading the JSON dialect back

What is written in the JSON dialect is a JSON text, and it means the array of the definitions: an
object for each of them with its name, its description, its parameters and its kind. So no two lists
of definitions are written in the same way.

## Main definitions

* `Gives`: what is read from a text.
* `Means`: the value that a printed value means wherever it stands.
* `JsonValue.ofDefinition`, `JsonValue.ofParameter`: what a definition and a parameter mean.

## Main results

* `reads_string`: a string is read back whatever its characters are.
* `means_array`, `means_object`: arrays and objects are read back from what they consist of.
* `read?_render_json`: the definitions are read back.
-/

namespace ApiReference.Output

open Schema Text

/-- A reading that succeeds gives a value and leaves a rest. -/
def Gives {α : Type} {s : Text} (reading? : Option (Reading α s)) (value : α)
    (rest : Text) : Prop :=
  ∃ reading, reading? = some reading ∧ reading.value = value ∧ reading.rest = rest

variable {c : Char} {s rest blanks : Text}

theorem Gives.exists_eq {α : Type} {reading? : Option (Reading α s)} {value : α}
    (h : Gives reading? value rest) : ∃ h, reading? = some ⟨value, rest, h⟩ := by
  obtain ⟨⟨_, _, h⟩, hread, rfl, rfl⟩ := h
  exact ⟨h, hread⟩

/-! ### Marks -/

/-- The white space before a mark is passed over. -/
theorem reads_mark (rest : Text) (hblanks : ∀ c ∈ blanks, isJsonBlank c)
    (hc : isJsonBlank c = false) : Gives (readMark? (blanks ++ c :: rest)) c rest := by
  induction blanks with
  | nil =>
    rw [List.nil_append, Gives, readMark?, if_neg (by simp [hc])]
    exact ⟨_, rfl, rfl, rfl⟩
  | cons blank blanks ih =>
    obtain ⟨hblank, hblanks⟩ := List.forall_mem_cons.1 hblanks
    obtain ⟨reading, hread, hvalue, hrest⟩ := ih hblanks
    rw [List.cons_append, Gives, readMark?, if_pos hblank, hread]
    exact ⟨_, rfl, hvalue, hrest⟩

theorem reads_mark_cons (rest : Text) (hc : isJsonBlank c = false) :
    Gives (readMark? (c :: rest)) c rest :=
  reads_mark rest (List.forall_mem_nil _) hc

/-! ### Strings -/

/-- The four digits by which a control character is written. -/
def codeDigits (c : Char) : Text :=
  ['0', '0', Nat.digitChar (c.toNat / 16), Nat.digitChar (c.toNat % 16)]

/-- A control character is read back from its digits. -/
theorem reads_code (hc : c.toNat < 0x20) (rest : Text) :
    Gives (readCode? (codeDigits c ++ rest)) c rest := by
  obtain ⟨hall, hvalue⟩ := Unicode.forall_of_forall_code
    (p := fun c ↦ (codeDigits c).all isHexDigit ∧ numeralValue 16 (codeDigits c) = c.toNat)
    0x20 (by decide) c hc
  rw [codeDigits] at hall hvalue
  simp only [codeDigits, List.cons_append, List.nil_append]
  rw [Gives, readCode?, readUnit?, if_pos hall]
  have hbasic : c.toNat < 0xD800 ∨ 0xE000 ≤ c.toNat := .inl (by omega)
  simp only [hvalue, Option.bind_eq_bind, Option.bind_some, hbasic]
  exact ⟨_, rfl, Char.ofNat_toNat c, rfl⟩

/-- A character is read back from a string. -/
theorem reads_character (c : Char) (rest : Text) :
    Gives (readCharacter? (Json.quoteChar c ++ rest)) (some c) rest := by
  generalize hwritten : Json.quoteChar c = written
  unfold Json.quoteChar at hwritten
  split at hwritten
  -- Seven characters have an escape of their own.
  iterate 7
    subst hwritten
    exact ⟨_, rfl, rfl, rfl⟩
  rename_i hquote hbackslash _ _ _ _ _
  split at hwritten
  · rename_i hc
    subst hwritten
    obtain ⟨reading, hread, hvalue, hrest⟩ := reads_code hc rest
    change Gives (readCharacter? ('\\' :: 'u' :: (codeDigits c ++ rest))) (some c) rest
    rw [Gives, readCharacter?, if_neg (by decide), if_pos rfl, readEscape?, if_pos rfl, hread]
    exact ⟨_, rfl, congrArg some hvalue, hrest⟩
  · rename_i hc
    subst hwritten
    rw [List.singleton_append, Gives, readCharacter?, if_neg hquote, if_neg hbackslash, if_neg hc]
    exact ⟨_, rfl, rfl, rfl⟩

/-- A string is read back whatever its characters are. -/
theorem reads_string (s rest : Text) :
    Gives (readString? (s.flatMap Json.quoteChar ++ '"' :: rest)) s rest := by
  induction s with
  | nil =>
    rw [List.flatMap_nil, List.nil_append, Gives, readString?]
    exact ⟨_, rfl, rfl, rfl⟩
  | cons c s ih =>
    obtain ⟨_, hfirst⟩ := (reads_character c (s.flatMap Json.quoteChar ++ '"' :: rest)).exists_eq
    obtain ⟨others, hothers, hvalue, hrest⟩ := ih
    rw [List.flatMap_cons, List.append_assoc, Gives, readString?, hfirst]
    simp only [Option.bind_eq_bind, Option.bind_some, hothers]
    exact ⟨_, rfl, congrArg (c :: ·) hvalue, hrest⟩

/-! ### Items -/

/-- Nothing behind a word belongs to it. -/
def EndsWord (rest : Text) : Prop := ∀ c ∈ rest.head?, isWordPart c = false

theorem isWordPart_eq_false_of_isJsonBlank (h : isJsonBlank c) : isWordPart c = false := by
  simp only [isJsonBlank, Bool.or_eq_true, beq_iff_eq] at h
  rcases h with ((rfl | rfl) | rfl) | rfl <;> decide

theorem endsWord_append_cons (hblanks : ∀ c ∈ blanks, isJsonBlank c) (hc : isWordPart c = false) :
    EndsWord (blanks ++ c :: rest) := by
  cases blanks with
  | nil => simpa [EndsWord] using hc
  | cons blank blanks =>
    have hblank := isWordPart_eq_false_of_isJsonBlank (hblanks blank List.mem_cons_self)
    simpa [EndsWord] using hblank

/-- The texts of items, each of them with a comma before it, and a text behind them. -/
def behindComma (texts : List Text) (tail : Text) : Text :=
  texts.foldr (fun text tail ↦ ',' :: (text ++ tail)) tail

section Items

variable {α : Type} {bound : Nat} {readItem? : (s : Text) → s.length < bound → Option (Reading α s)}
  {text : Text} {texts : List Text} {value : α} {values : List α} {close : Char}

variable (readItem?) in
/-- A reader reads an item from its text, whatever stands behind it. -/
def ReadsItem (text : Text) (value : α) : Prop :=
  ∀ rest hs, EndsWord rest → Gives (readItem? (text ++ rest) hs) value rest

/-- Items are read one after the other up to the closing mark. -/
theorem reads_items (hitem : ReadsItem readItem? text value)
    (hitems : List.Forall₂ (ReadsItem readItem?) texts values)
    (hblanks : ∀ c ∈ blanks, isJsonBlank c) (hclose : close ∈ [']', '\x7d'])
    (hs : (text ++ behindComma texts (blanks ++ close :: rest)).length < bound) :
    Gives (readItems? readItem? close (text ++ behindComma texts (blanks ++ close :: rest)) hs)
      (value :: values) rest := by
  have hmarks : isWordPart close = false ∧ isJsonBlank close = false ∧ ',' ≠ close := by
    simp only [List.mem_cons, List.not_mem_nil, or_false] at hclose
    rcases hclose with rfl | rfl <;> decide
  obtain ⟨hword, hblank, hcomma⟩ := hmarks
  induction hitems generalizing text value with
  | nil =>
    obtain ⟨_, hread⟩ := (hitem _ hs (endsWord_append_cons hblanks hword)).exists_eq
    obtain ⟨_, hmark⟩ := (reads_mark rest hblanks hblank).exists_eq
    rw [Gives, readItems?, hread]
    simp only [Option.bind_eq_bind, Option.bind_some, behindComma, List.foldr_nil, hmark]
    exact ⟨_, rfl, rfl, rfl⟩
  | @cons next nextValue texts values hnext hitems ih =>
    have hends : EndsWord (behindComma (next :: texts) (blanks ++ close :: rest)) := by
      simp [behindComma, EndsWord, isWordPart]
    obtain ⟨_, hread⟩ := (hitem _ hs hends).exists_eq
    have hmark : readMark? (behindComma (next :: texts) (blanks ++ close :: rest)) =
      some ⟨',', next ++ behindComma texts (blanks ++ close :: rest), Nat.lt_succ_self _⟩ := rfl
    rw [Gives, readItems?, hread]
    simp only [Option.bind_eq_bind, Option.bind_some, hmark, if_neg hcomma, if_true]
    have hlt : (next ++ behindComma texts (blanks ++ close :: rest)).length < bound :=
      Nat.lt_trans (Nat.lt_trans (Nat.lt_succ_self _) ‹_›) hs
    obtain ⟨reading, hothers, hvalue, hrest⟩ := ih hnext hlt
    rw [hothers]
    exact ⟨_, rfl, congrArg (_ :: ·) hvalue, hrest⟩

/-- A list without items is read. -/
theorem reads_list_nil (hclose : isJsonBlank close = false) (hs : (close :: rest).length < bound) :
    Gives (readList? readItem? close (close :: rest) hs) [] rest := by
  obtain ⟨_, hmark⟩ := (reads_mark_cons rest hclose).exists_eq
  rw [Gives, readList?, hmark]
  simp only [Option.bind_eq_bind, Option.bind_some, if_true]
  exact ⟨_, rfl, rfl, rfl⟩

/-- A list with items is read when the first of them cannot be taken for the closing mark. -/
theorem reads_list_cons (hitem : ReadsItem readItem? text value)
    (hitems : List.Forall₂ (ReadsItem readItem?) texts values)
    (hblanks : ∀ c ∈ blanks, isJsonBlank c) (hclose : close ∈ [']', '\x7d'])
    (hstart : ∀ tail, ∃ c s, Gives (readMark? (text ++ tail)) c s ∧ c ≠ close)
    (hs : (text ++ behindComma texts (blanks ++ close :: rest)).length < bound) :
    Gives (readList? readItem? close (text ++ behindComma texts (blanks ++ close :: rest)) hs)
      (value :: values) rest := by
  obtain ⟨c, s, hstart, hc⟩ := hstart (behindComma texts (blanks ++ close :: rest))
  obtain ⟨_, hmark⟩ := hstart.exists_eq
  rw [readList?, hmark]
  simp only [Option.bind_eq_bind, Option.bind_some, if_neg hc]
  exact reads_items hitem hitems hblanks hclose hs

end Items

/-! ### Values -/

/-- A printed value means a value wherever it stands. -/
def Means (json : Json) (value : JsonValue) : Prop :=
  ∀ indent blanks rest, (∀ c ∈ blanks, isJsonBlank c) → EndsWord rest →
    Gives (readValue? (blanks ++ (json.print indent ++ rest))) value rest

/-- A word is read with the value that it has. -/
theorem reads_word (word : Text) {value : JsonValue} (hc : c ∉ ['"', '[', '\x7b'])
    (hblank : isJsonBlank c = false) (hword : ∀ d ∈ word, isWordPart d)
    (hvalue : wordValue? (c :: word) = some value) (hblanks : ∀ c ∈ blanks, isJsonBlank c)
    (hrest : EndsWord rest) : Gives (readValue? (blanks ++ (c :: word ++ rest))) value rest := by
  simp only [List.mem_cons, List.not_mem_nil, or_false, not_or] at hc
  obtain ⟨_, hmark⟩ := (reads_mark (word ++ rest) hblanks hblank).exists_eq
  rw [List.cons_append, Gives, readValue?, hmark]
  simp only [Option.bind_eq_bind, Option.bind_some, if_neg hc.1, if_neg hc.2.1, if_neg hc.2.2,
    takeWhile_append_stop hword hrest, hvalue, dropWhile_append_stop hword hrest]
  exact ⟨_, rfl, rfl, rfl⟩

theorem means_bool (b : Bool) : Means (.bool b) (.bool b) := by
  intro indent blanks rest hblanks hrest
  cases b with
  | false => exact reads_word "alse" (by decide) rfl (List.all_eq_true.1 rfl) rfl hblanks hrest
  | true => exact reads_word "rue" (by decide) rfl (List.all_eq_true.1 rfl) rfl hblanks hrest

/-- The text of a string is its characters between two quotes. -/
theorem quote_append (s rest : Text) :
    Json.quote s ++ rest = '"' :: (s.flatMap Json.quoteChar ++ '"' :: rest) := by
  simp [Json.quote]

theorem means_string (s : Text) : Means (.string s) (.string s) := by
  intro indent blanks rest hblanks hrest
  obtain ⟨string, hstring, hvalue, hrest⟩ := reads_string s rest
  have hquote : isJsonBlank '"' = false := rfl
  obtain ⟨_, hmark⟩ :=
    (reads_mark (s.flatMap Json.quoteChar ++ '"' :: rest) hblanks hquote).exists_eq
  rw [Json.print, quote_append, Gives, readValue?, hmark]
  simp only [Option.bind_eq_bind, Option.bind_some, if_true, hstring]
  exact ⟨_, rfl, congrArg JsonValue.string hvalue, hrest⟩

/-! ### Arrays and objects -/

/-- The text of an element on a line of its own. -/
def elementText (indent : Nat) (element : Json) : Text :=
  Json.newline indent ++ element.print indent

/-- The text of a member on a line of its own. -/
def memberText (indent : Nat) (member : Text × Json) : Text :=
  Json.newline indent ++ Json.printMember indent member

theorem printElements_append (indent : Nat) (elements : List Json) (tail : Text) :
    Json.printElements indent elements ++ tail =
      behindComma (elements.map (elementText indent)) tail := by
  induction elements with
  | nil => rfl
  | cons element elements ih =>
    simp only [behindComma, List.map_cons, List.foldr_cons, elementText, Json.printElements,
      List.cons_append, List.append_assoc] at ih ⊢
    rw [ih]

theorem printMembers_append (indent : Nat) (members : List (Text × Json)) (tail : Text) :
    Json.printMembers indent members ++ tail =
      behindComma (members.map (memberText indent)) tail := by
  induction members with
  | nil => rfl
  | cons member members ih =>
    simp only [behindComma, List.map_cons, List.foldr_cons, memberText, Json.printMembers,
      List.cons_append, List.append_assoc] at ih ⊢
    rw [ih]

theorem isJsonBlank_newline (indent : Nat) : ∀ c ∈ Json.newline indent, isJsonBlank c := by
  simp [Json.newline, isJsonBlank]

/-- A printed value starts with a mark that closes no array. -/
theorem exists_print_eq_cons (json : Json) (indent : Nat) :
    ∃ c tail, json.print indent = c :: tail ∧ isJsonBlank c = false ∧ c ≠ ']' := by
  cases json with
  | bool b => cases b <;> exact ⟨_, _, rfl, by decide, by decide⟩
  | string s => exact ⟨_, _, rfl, by decide, by decide⟩
  | array elements => cases elements <;> exact ⟨_, _, rfl, by decide, by decide⟩
  | object members => cases members <;> exact ⟨_, _, rfl, by decide, by decide⟩

theorem exists_reads_mark_elementText (indent : Nat) (element : Json) (tail : Text) :
    ∃ c s, Gives (readMark? (elementText indent element ++ tail)) c s ∧ c ≠ ']' := by
  obtain ⟨c, s, hprint, hblank, hc⟩ := exists_print_eq_cons element indent
  refine ⟨c, s ++ tail, ?_, hc⟩
  rw [elementText, hprint, List.append_assoc]
  exact reads_mark _ (isJsonBlank_newline indent) hblank

theorem exists_reads_mark_memberText (indent : Nat) (member : Text × Json) (tail : Text) :
    ∃ c s, Gives (readMark? (memberText indent member ++ tail)) c s ∧ c ≠ '\x7d' := by
  obtain ⟨name, value⟩ := member
  rw [memberText, List.append_assoc, Json.printMember, List.append_assoc, quote_append]
  exact ⟨'"', _, reads_mark _ (isJsonBlank_newline indent) rfl, by decide⟩

variable {json : Json} {value : JsonValue}

theorem readsItem_element (h : Means json value) (indent bound : Nat) :
    ReadsItem (fun s (_ : s.length < bound) ↦ readValue? s) (elementText indent json) value := by
  intro rest hs hrest
  have hread := h indent (Json.newline indent) rest (isJsonBlank_newline indent) hrest
  rwa [← List.append_assoc] at hread

theorem readsItem_member {member : Text × Json} {value : Text × JsonValue}
    (h : member.1 = value.1 ∧ Means member.2 value.2) (indent bound : Nat) :
    ReadsItem (readMember? fun s (_ : s.length < bound) ↦ readValue? s)
      (memberText indent member) value := by
  obtain ⟨name, json⟩ := member
  obtain ⟨_, value⟩ := value
  obtain ⟨rfl, hmeans⟩ := h
  intro rest
  have htext : memberText indent (name, json) ++ rest = Json.newline indent ++ '"' ::
      (name.flatMap Json.quoteChar ++ '"' :: ':' :: ([' '] ++ (json.print indent ++ rest))) := by
    simp [memberText, Json.printMember, Json.quote]
  rw [htext]
  intro hs hrest
  have hmarks : isJsonBlank '"' = false ∧ isJsonBlank ':' = false := by decide
  obtain ⟨_, hquote⟩ := (reads_mark _ (isJsonBlank_newline indent) hmarks.1).exists_eq
  obtain ⟨_, hname⟩ :=
    (reads_string name (':' :: ([' '] ++ (json.print indent ++ rest)))).exists_eq
  obtain ⟨_, hcolon⟩ := (reads_mark_cons ([' '] ++ (json.print indent ++ rest)) hmarks.2).exists_eq
  obtain ⟨item, hitem, hvalue, hrest⟩ := hmeans indent [' '] rest (List.all_eq_true.1 rfl) hrest
  rw [Gives, readMember?, hquote]
  simp only [Option.bind_eq_bind, Option.bind_some, Option.pure_def, guard, if_true, hname, hcolon,
    hitem]
  exact ⟨_, rfl, congrArg (name, ·) hvalue, hrest⟩

/-- What stands in brackets is read as an array. -/
theorem reads_array {tail : Text} {values : List JsonValue} (hblanks : ∀ c ∈ blanks, isJsonBlank c)
    (h : ∀ bound hs,
      Gives (readList? (fun s (_ : s.length < bound) ↦ readValue? s) ']' tail hs) values rest) :
    Gives (readValue? (blanks ++ '[' :: tail)) (.array values) rest := by
  obtain ⟨hlt, hmark⟩ := (reads_mark tail hblanks (rfl : isJsonBlank '[' = false)).exists_eq
  obtain ⟨list, hlist, hvalue, hrest⟩ := h _ hlt
  rw [Gives, readValue?, hmark]
  have hquote : '[' ≠ '"' := by decide
  simp only [Option.bind_eq_bind, Option.bind_some, if_neg hquote, if_true, hlist]
  exact ⟨_, rfl, congrArg JsonValue.array hvalue, hrest⟩

/-- What stands in braces is read as an object. -/
theorem reads_object {tail : Text} {members : List (Text × JsonValue)}
    (hblanks : ∀ c ∈ blanks, isJsonBlank c)
    (h : ∀ bound hs,
      Gives (readList? (readMember? fun s (_ : s.length < bound) ↦ readValue? s) '\x7d' tail hs)
        members rest) :
    Gives (readValue? (blanks ++ '\x7b' :: tail)) (.object members) rest := by
  obtain ⟨hlt, hmark⟩ := (reads_mark tail hblanks (rfl : isJsonBlank '\x7b' = false)).exists_eq
  obtain ⟨list, hlist, hvalue, hrest⟩ := h _ hlt
  rw [Gives, readValue?, hmark]
  have hother : '\x7b' ≠ '"' ∧ '\x7b' ≠ '[' := by decide
  simp only [Option.bind_eq_bind, Option.bind_some, if_neg hother.1, if_neg hother.2, if_true,
    hlist]
  exact ⟨_, rfl, congrArg JsonValue.object hvalue, hrest⟩

theorem means_array {elements : List Json} {values : List JsonValue}
    (h : List.Forall₂ Means elements values) : Means (.array elements) (.array values) := by
  intro indent blanks rest hblanks hrest
  cases h with
  | nil => exact reads_array hblanks fun _ hs ↦ reads_list_nil rfl hs
  | @cons element value elements values hfirst hothers =>
    have htext : (Json.array (element :: elements)).print indent ++ rest =
        '[' :: (elementText (indent + 2) element ++ behindComma
          (elements.map (elementText (indent + 2))) (Json.newline indent ++ ']' :: rest)) := by
      simp [Json.print, elementText, ← printElements_append]
    have hitem (bound : Nat) := readsItem_element hfirst (indent + 2) bound
    have hitems (bound : Nat) : List.Forall₂
        (ReadsItem fun s (_ : s.length < bound) ↦ readValue? s)
        (elements.map (elementText (indent + 2))) values :=
      List.forall₂_map_left_iff.2 (hothers.imp fun _ _ h ↦ readsItem_element h (indent + 2) bound)
    rw [htext]
    refine reads_array hblanks fun bound hs ↦ ?_
    exact reads_list_cons (hitem bound) (hitems bound) (isJsonBlank_newline indent) (by decide)
      (exists_reads_mark_elementText (indent + 2) element) hs

theorem means_object {members : List (Text × Json)} {values : List (Text × JsonValue)}
    (h : List.Forall₂ (fun member value ↦ member.1 = value.1 ∧ Means member.2 value.2)
      members values) : Means (.object members) (.object values) := by
  intro indent blanks rest hblanks hrest
  cases h with
  | nil => exact reads_object hblanks fun _ hs ↦ reads_list_nil rfl hs
  | @cons member value members values hfirst hothers =>
    have htext : (Json.object (member :: members)).print indent ++ rest =
        '\x7b' :: (memberText (indent + 2) member ++ behindComma
          (members.map (memberText (indent + 2))) (Json.newline indent ++ '\x7d' :: rest)) := by
      simp [Json.print, memberText, ← printMembers_append]
    have hitem (bound : Nat) := readsItem_member hfirst (indent + 2) bound
    have hitems (bound : Nat) : List.Forall₂
        (ReadsItem (readMember? fun s (_ : s.length < bound) ↦ readValue? s))
        (members.map (memberText (indent + 2))) values :=
      List.forall₂_map_left_iff.2 (hothers.imp fun _ _ h ↦ readsItem_member h (indent + 2) bound)
    rw [htext]
    refine reads_object hblanks fun bound hs ↦ ?_
    exact reads_list_cons (hitem bound) (hitems bound) (isJsonBlank_newline indent) (by decide)
      (exists_reads_mark_memberText (indent + 2) member) hs

/-! ### Definitions -/

/-- The value that a parameter is written as. -/
def JsonValue.ofParameter (parameter : Parameter) : JsonValue :=
  .object [
    ("name", .string parameter.name),
    ("declared_type", .string parameter.declaredType),
    ("required", .bool parameter.required),
    ("description", .string parameter.description)]

/-- The value that a definition is written as. -/
def JsonValue.ofDefinition (definition : Definition) : JsonValue :=
  .object [
    ("name", .string definition.name),
    ("description", .string definition.description),
    ("params", .array (definition.parameters.map ofParameter)),
    ("kind", .string (if definition.kind = .type then "type" else "function"))]

theorem means_parameter (parameter : Parameter) :
    Means (jsonParameter parameter) (.ofParameter parameter) := by
  refine means_object (.cons ⟨rfl, ?_⟩ (.cons ⟨rfl, ?_⟩ (.cons ⟨rfl, ?_⟩ (.cons ⟨rfl, ?_⟩ .nil))))
  · exact means_string _
  · exact means_string _
  · exact means_bool _
  · exact means_string _

theorem means_kind (kind : Kind) :
    Means (jsonKind kind) (.string (if kind = .type then "type" else "function")) := by
  cases kind <;> exact means_string _

theorem means_definition (definition : Definition) :
    Means (jsonDefinition definition) (.ofDefinition definition) := by
  refine means_object (.cons ⟨rfl, ?_⟩ (.cons ⟨rfl, ?_⟩ (.cons ⟨rfl, ?_⟩ (.cons ⟨rfl, ?_⟩ .nil))))
  · exact means_string _
  · exact means_string _
  · refine means_array (List.forall₂_map_left_iff.2 (List.forall₂_map_right_iff.2 ?_))
    exact List.forall₂_same.2 fun parameter _ ↦ means_parameter parameter
  · exact means_kind _

/-- The text of the JSON dialect is read as the array of the definitions. -/
theorem read?_jsonText (definitions : List Definition) :
    JsonValue.read? (jsonText definitions) =
      some (.array (definitions.map JsonValue.ofDefinition)) := by
  have hmeans : Means (.array (definitions.map jsonDefinition))
      (.array (definitions.map JsonValue.ofDefinition)) := by
    refine means_array (List.forall₂_map_left_iff.2 (List.forall₂_map_right_iff.2 ?_))
    exact List.forall₂_same.2 fun definition _ ↦ means_definition definition
  have hread : Gives (readValue? (jsonText definitions)) _ ['\n'] :=
    hmeans 0 [] ['\n'] (List.forall_mem_nil _) (by simp [EndsWord, isWordPart])
  obtain ⟨_, hread⟩ := hread.exists_eq
  rw [JsonValue.read?, hread]
  rfl

theorem JsonValue.ofParameter_injective : Function.Injective ofParameter := by
  rintro ⟨_, _, _, _⟩ ⟨_, _, _, _⟩ h
  simp only [ofParameter, object.injEq, List.cons.injEq, Prod.mk.injEq, string.injEq, bool.injEq,
    true_and, and_true] at h
  obtain ⟨rfl, rfl, rfl, rfl⟩ := h
  rfl

theorem JsonValue.ofDefinition_injective : Function.Injective ofDefinition := by
  rintro ⟨_, _, _, kind⟩ ⟨_, _, _, kind'⟩ h
  simp only [ofDefinition, object.injEq, List.cons.injEq, Prod.mk.injEq, string.injEq, array.injEq,
    true_and, and_true] at h
  obtain ⟨rfl, rfl, hparameters, hkind⟩ := h
  obtain rfl := ofParameter_injective.list_map hparameters
  have hkinds : ∀ kind kind' : Kind, (if kind = .type then ("type" : Text) else "function") =
      (if kind' = .type then ("type" : Text) else "function") → kind = kind' := by
    rintro (_ | _) (_ | _) h
    · rfl
    · exact absurd h (by decide)
    · exact absurd h (by decide)
    · rfl
  obtain rfl := hkinds kind kind' hkind
  rfl

/-- In the JSON dialect definitions are written as a JSON text that means the array of them,
whatever their texts hold. No two lists of definitions are written in the same way. -/
theorem read?_render_json (style : Style) :
    (∀ definitions, JsonValue.read? (({ style with dialect := .json } : Style).render definitions) =
      some (.array (definitions.map JsonValue.ofDefinition))) ∧
    Function.Injective ({ style with dialect := .json } : Style).render := by
  refine ⟨read?_jsonText, fun definitions definitions' h ↦ ?_⟩
  have hvalues := (read?_jsonText definitions).symm.trans
    ((congrArg JsonValue.read? h).trans (read?_jsonText definitions'))
  exact JsonValue.ofDefinition_injective.list_map (JsonValue.array.inj (Option.some.inj hvalues))

end ApiReference.Output
