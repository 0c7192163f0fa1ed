import ApiReference.Output.Rendering
import ApiReference.Proofs.Output.InlineText
import ApiReference.Proofs.Output.WrappedLine
import ApiReference.Proofs.Text.Run
import Mathlib.Data.List.TakeWhile

/-!
# The code of an output

What an output declares remains when its blank lines and its comments are taken away. In both
dialects of code these are exactly the declarations of the definitions, one after another, and no
description has a part in them: not by its own newlines, nor by those that wrapping adds, nor by
what looks like code in it.

Each piece of an output is a list of lines. The lines *carry* some code when they have no newlines
of their own and the code is what remains of them. Carrying goes along with everything from which an
output is put together, so each block is settled from its parts.

## Main definitions

* `isCode`, `codeLines`: the lines of an output that are neither blank nor comments.
* `Style.messageCode`, `Style.structCode`: the declarations of a definition.
* `Carries`: some lines carry some code.

## Main results

* `carries_comment`: comments carry nothing.
* `Style.carries_messageBlock`, `Style.carries_structBlock`: a block carries its declaration.
* `Style.codeLines_render`: the code of an output, which depends neither on the width of comments
  nor on the descriptions.
-/

namespace ApiReference.Schema.Definition

/-- A definition whose name stands on one line, with parameters that are named by letters, numbers
and underscores. -/
structure HasPlainNames (definition : Definition) : Prop where
  name : '\n' ∉ definition.name
  parameters : ∀ parameter ∈ definition.parameters, ∀ c ∈ parameter.name,
    Unicode.isAlphanumeric c || c == '_'

/-- A definition without its descriptions. -/
def undescribed (definition : Definition) : Definition :=
  { definition with
    description := []
    parameters := definition.parameters.map fun parameter ↦ { parameter with description := [] } }

theorem hasPlainNames_undescribed {definition : Definition} :
    definition.undescribed.HasPlainNames ↔ definition.HasPlainNames := by
  constructor <;> rintro ⟨hname, hparameters⟩ <;>
    exact ⟨hname, by simpa [undescribed] using hparameters⟩

end ApiReference.Schema.Definition

namespace ApiReference.Output

open Schema

/-! ### Code -/

/-- The mark of a comment. -/
def commentMark : Text := "//"

/-- Whether a line is code: it is neither blank nor a comment. -/
def isCode (line : Text) : Bool :=
  !Text.isBlank line && !commentMark.isPrefixOf (Text.trimStart line)

/-- The lines of an output that are code. -/
def codeLines (output : Text) : List Text := (Text.lines output).filter isCode

namespace Style

variable (style : Style)

/-- A field of a message. -/
def messageFieldCode (parameter : Parameter) (number : Nat) : Text :=
  "  " ++ style.messageTypeOf parameter.declaredType ++ " " ++ parameter.name ++ " = " ++
    Text.decimal number ++ ";"

/-- The message that a definition declares. -/
def messageCode (definition : Definition) : List Text :=
  ["message " ++ definition.name ++ " \x7b"] ++
    ((definition.parameters.zipIdx 1).map fun (parameter, number) ↦
      style.messageFieldCode parameter number) ++
    [['\x7d']]

/-- A field of a structure. -/
def structFieldCode (parameter : Parameter) : Text :=
  "  " ++ exportedName parameter.name ++ " " ++ style.structTypeOf parameter.declaredType ++
    " `json:\"" ++ parameter.name ++ "\"`"

/-- A structure with a line for each of its fields and one for its end. -/
def spreadStructCode (definition : Definition) : List Text :=
  ["type " ++ definition.name ++ " struct \x7b"] ++
    definition.parameters.map style.structFieldCode ++ [['\x7d']]

/-- The structure that a type declares. One without fields stands on one line. A function declares
nothing. -/
def structCode (definition : Definition) : List Text :=
  match definition.kind with
  | .type =>
    if definition.parameters.isEmpty then ["type " ++ definition.name ++ " struct \x7b\x7d"]
    else style.spreadStructCode definition
  | .function => []

theorem messageCode_undescribed (definition : Definition) :
    style.messageCode definition.undescribed = style.messageCode definition := by
  have hfields : ((definition.undescribed.parameters.zipIdx 1).map fun (parameter, number) ↦
      style.messageFieldCode parameter number) =
      (definition.parameters.zipIdx 1).map fun (parameter, number) ↦
        style.messageFieldCode parameter number := by
    rw [Definition.undescribed, List.zipIdx_map, List.map_map]
    rfl
  rw [messageCode, hfields]
  rfl

theorem structCode_undescribed (definition : Definition) :
    style.structCode definition.undescribed = style.structCode definition := by
  have hfields : definition.undescribed.parameters.map style.structFieldCode =
      definition.parameters.map style.structFieldCode := by
    rw [Definition.undescribed, List.map_map]
    rfl
  rw [structCode, spreadStructCode, hfields, Definition.undescribed, List.isEmpty_map]
  rfl

end Style

/-! ### Single lines -/

variable {s t line : Text}

/-- Whether a text makes every line that starts with it code: its first character that is not white
space is not a slash. -/
def startsCode (s : Text) : Bool := (Text.trimStart s).head?.any (· != '/')

theorem isCode_of_startsCode (h : startsCode line) : isCode line := by
  rw [startsCode, Text.trimStart] at h
  cases htrim : line.dropWhile Unicode.isBlank with
  | nil => simp [htrim] at h
  | cons c rest =>
    have hblank : Text.isBlank line = false := by
      refine Bool.eq_false_iff.2 fun hblank ↦ ?_
      rw [List.dropWhile_eq_nil_iff.2 (List.all_eq_true.1 hblank)] at htrim
      exact List.cons_ne_nil _ _ htrim.symm
    have hc : c ≠ '/' := by simpa [htrim] using h
    have hmark : commentMark.isPrefixOf (c :: rest) = false := by
      simp [commentMark, List.isPrefixOf, Ne.symm hc]
    simp [isCode, hblank, Text.trimStart, htrim, hmark]

theorem startsCode_append (h : startsCode s) (t : Text) : startsCode (s ++ t) := by
  rw [startsCode, Text.trimStart] at h ⊢
  rw [List.dropWhile_append]
  cases htrim : s.dropWhile Unicode.isBlank with
  | nil => simp [htrim] at h
  | cons c rest => simpa [htrim] using h

/-- A text without slashes starts code with the first thing in it that is not white space. -/
theorem startsCode_of_isInline (hs : IsInline s) (ht : IsInline t) (hblank : ¬ Text.isBlank t) :
    startsCode (s ++ t) := by
  rw [startsCode, Text.trimStart]
  cases htrim : (s ++ t).dropWhile Unicode.isBlank with
  | nil =>
    have hall := List.dropWhile_eq_nil_iff.1 htrim
    exact absurd (List.all_eq_true.2 fun c hc ↦ hall c (List.mem_append_right s hc)) hblank
  | cons c rest =>
    have hc : c ∈ s ++ t := (List.dropWhile_sublist _).mem (htrim ▸ List.mem_cons_self)
    simpa using (isInline_append.2 ⟨hs, ht⟩ c hc).2

/-- A comment is no code, however it goes on. -/
theorem isCode_comment (indent : Nat) (rest : Text) :
    isCode (List.replicate indent ' ' ++ '/' :: '/' :: rest) = false := by
  have hspaces : ∀ c ∈ List.replicate indent ' ', Unicode.isBlank c := fun c hc ↦ by
    rw [List.eq_of_mem_replicate hc]
    decide
  have htrim := Text.dropWhile_append_stop (t := '/' :: '/' :: rest) hspaces
    (by simpa using by decide)
  simp [isCode, Text.trimStart, htrim, commentMark]

/-! ### Comments -/

theorem isCode_commentLine (indent : Nat) (line : Text) :
    isCode (commentLine indent line) = false :=
  isCode_comment indent _

/-! ### Lines that carry code -/

/-- Some lines without newlines carry the code that remains of them. -/
structure Carries (ls code : List Text) : Prop where
  newline_not_mem : ∀ line ∈ ls, '\n' ∉ line
  filter_eq : ls.filter isCode = code

theorem carries_nil : Carries [] [] := ⟨List.forall_mem_nil _, rfl⟩

theorem carries_emptyLine : Carries [[]] [] := ⟨by simp, rfl⟩

theorem carries_code (hline : '\n' ∉ line) (h : startsCode line) : Carries [line] [line] :=
  ⟨List.forall_mem_singleton.2 hline, List.filter_cons_of_pos (isCode_of_startsCode h)⟩

theorem carries_closingBrace : Carries [['\x7d']] [['\x7d']] := carries_code (by decide) (by decide)

theorem carries_comment (indent width : Nat) (text : Text) :
    Carries (comment indent width text) [] := by
  rw [comment]
  split
  · exact carries_nil
  · refine ⟨List.forall_mem_map.2 fun line hline ↦ ?_, List.filter_eq_nil_iff.2 ?_⟩
    · exact newline_not_mem_commentLine (newline_not_mem_of_mem_wrap hline)
    · simp [isCode_commentLine]

variable {ls ls' code code' : List Text} {α : Type} {xs : List α} {f g : α → List Text}

theorem Carries.append (h : Carries ls code) (h' : Carries ls' code') :
    Carries (ls ++ ls') (code ++ code') :=
  ⟨List.forall_mem_append.2 ⟨h.newline_not_mem, h'.newline_not_mem⟩, by
    rw [List.filter_append, h.filter_eq, h'.filter_eq]⟩

theorem Carries.behind_comment {indent width : Nat} {text : Text} (h : Carries ls code) :
    Carries (comment indent width text ++ ls) code :=
  (carries_comment indent width text).append h

theorem Carries.behind_emptyLine (h : Carries ls code) : Carries ([] :: ls) code :=
  carries_emptyLine.append h

theorem carries_flatMap (h : ∀ x ∈ xs, Carries (f x) (g x)) :
    Carries (xs.flatMap f) (xs.flatMap g) := by
  induction xs with
  | nil => exact carries_nil
  | cons x xs ih =>
    obtain ⟨hx, hxs⟩ := List.forall_mem_cons.1 h
    exact hx.append (ih hxs)

/-- Pieces may have an empty line between them. -/
theorem carries_intercalate (h : ∀ x ∈ xs, Carries (f x) (g x)) :
    Carries (List.intercalate [[]] (xs.map f)) (xs.flatMap g) := by
  induction xs with
  | nil => exact carries_nil
  | cons x xs ih =>
    obtain ⟨hx, hxs⟩ := List.forall_mem_cons.1 h
    cases xs with
    | nil => simpa [List.intercalate] using hx
    | cons y xs =>
      rw [List.map_cons, List.map_cons, List.intercalate_cons_cons, List.append_assoc]
      exact hx.append (ih hxs).behind_emptyLine

/-- The code of a text that is written from some lines. -/
theorem Carries.codeLines_unlines (h : Carries ls code) : codeLines (Text.unlines ls) = code := by
  rw [codeLines, Text.lines_unlines h.newline_not_mem, List.filter_append, h.filter_eq]
  exact List.append_nil code

/-! ### Blocks -/

variable {definition : Definition} {definitions : List Definition} {parameter : Parameter}

theorem isInline_parameter_name (h : definition.HasPlainNames)
    (hparameter : parameter ∈ definition.parameters) : IsInline parameter.name := fun c hc ↦
  isInlineChar_of_isAlphanumeric (h.parameters parameter hparameter c hc)

namespace Style

variable (style : Style)

theorem carries_messageField (h : IsInline parameter.name) (number : Nat) :
    Carries (style.messageField parameter number) [style.messageFieldCode parameter number] := by
  have htype := style.isInline_messageTypeOf parameter.declaredType
  have hdecimal : '\n' ∉ Text.decimal number := fun hmem ↦ by
    simpa using Nat.isDigit_of_mem_toDigits (by decide) (by decide) hmem
  have hstart : startsCode
      ("  " ++ style.messageTypeOf parameter.declaredType ++ " " ++ parameter.name ++ " = ") :=
    startsCode_of_isInline (by simp [htype, h]; decide) (by decide) (by decide)
  refine (carries_code ?_ (startsCode_append (startsCode_append hstart _) _)).behind_comment
    |>.behind_emptyLine
  simp [htype.newline_not_mem, h.newline_not_mem, hdecimal]

theorem carries_messageBlock (h : definition.HasPlainNames) :
    Carries (style.messageBlock definition) (style.messageCode definition) := by
  have hhead : Carries ["message " ++ definition.name ++ " \x7b"]
      ["message " ++ definition.name ++ " \x7b"] :=
    carries_code (by simp [h.name])
      (startsCode_append (startsCode_append (s := "message ") (by decide) _) _)
  have hfields : Carries
      ((definition.parameters.zipIdx 1).flatMap fun (parameter, number) ↦
        style.messageField parameter number)
      ((definition.parameters.zipIdx 1).map fun (parameter, number) ↦
        style.messageFieldCode parameter number) := by
    rw [List.map_eq_flatMap]
    refine carries_flatMap fun (parameter, number) hmem ↦ ?_
    exact style.carries_messageField
      (isInline_parameter_name h (List.fst_mem_of_mem_zipIdx hmem)) number
  rw [messageBlock, List.append_assoc, List.append_assoc]
  exact (hhead.append (hfields.append carries_closingBrace)).behind_comment

theorem carries_messageLines (h : ∀ definition ∈ definitions, definition.HasPlainNames) :
    Carries (style.messageLines definitions) (definitions.flatMap style.messageCode) :=
  carries_intercalate fun definition hdefinition ↦
    style.carries_messageBlock (h definition hdefinition)

theorem carries_structField (h : IsInline parameter.name) :
    Carries (style.structField parameter) [style.structFieldCode parameter] := by
  have htype := style.isInline_structTypeOf parameter.declaredType
  have hexported := isInline_exportedName h
  have hstart : startsCode ("  " ++ exportedName parameter.name ++ " " ++
      style.structTypeOf parameter.declaredType ++ " `json:\"") :=
    startsCode_of_isInline (by simp [htype, hexported]; decide) (by decide) (by decide)
  refine (carries_code ?_ (startsCode_append (startsCode_append hstart _) _)).behind_comment
  simp [htype.newline_not_mem, hexported.newline_not_mem, h.newline_not_mem]

theorem carries_structTypeBlock (h : definition.HasPlainNames) :
    Carries (style.structTypeBlock definition)
      (if definition.parameters.isEmpty then ["type " ++ definition.name ++ " struct \x7b\x7d"]
        else style.spreadStructCode definition) := by
  have hhead : ∀ s : Text, '\n' ∉ s →
      Carries ["type " ++ definition.name ++ s] ["type " ++ definition.name ++ s] := fun s hs ↦
    carries_code (by simp [h.name, hs])
      (startsCode_append (startsCode_append (s := "type ") (by decide) _) _)
  have hfields : Carries (List.intercalate [[]] (definition.parameters.map style.structField))
      (definition.parameters.map style.structFieldCode) := by
    rw [List.map_eq_flatMap (f := style.structFieldCode)]
    exact carries_intercalate fun parameter hparameter ↦
      style.carries_structField (isInline_parameter_name h hparameter)
  refine Carries.behind_comment ?_
  cases hparameters : definition.parameters with
  | nil => exact hhead _ (by decide)
  | cons first others =>
    rw [spreadStructCode, List.append_assoc]
    rw [hparameters] at hfields ⊢
    exact (hhead _ (by decide)).append (hfields.append carries_closingBrace)

/-- The signature of a function stands on one line. -/
theorem newline_not_mem_signature (h : definition.HasPlainNames) :
    '\n' ∉ style.signature definition := by
  have htype := fun declared ↦ (style.isInline_structTypeOf declared).newline_not_mem
  have harguments : '\n' ∉ style.argumentList definition.parameters := by
    refine Text.not_mem_intercalate (by decide) (List.forall_mem_map.2 ?_)
    intro parameter hparameter
    have hlocal := isInline_localName (isInline_parameter_name h hparameter)
    simp [hlocal.newline_not_mem, htype]
  unfold signature
  cases definition.resultType? with
  | none => simp [h.name, harguments]
  | some result => simp [h.name, harguments, htype]

theorem carries_structBlock (h : definition.HasPlainNames) :
    Carries (style.structBlock definition) (style.structCode definition) := by
  rw [structBlock, structCode]
  cases definition.kind with
  | type => exact style.carries_structTypeBlock h
  | function =>
    have hcode : isCode ("// " ++ style.signature definition) = false := isCode_comment 0 _
    refine Carries.behind_comment ⟨?_, List.filter_cons_of_neg (Bool.eq_false_iff.1 hcode)⟩
    simp [style.newline_not_mem_signature h]

theorem carries_structLines (hpackage : '\n' ∉ style.package)
    (h : ∀ definition ∈ definitions, definition.HasPlainNames) :
    Carries (style.structLines definitions)
      (("package " ++ style.package) :: definitions.flatMap style.structCode) := by
  have hhead : Carries ["package " ++ style.package] ["package " ++ style.package] :=
    carries_code (by simp [hpackage]) (startsCode_append (s := "package ") (by decide) _)
  exact hhead.append (carries_flatMap fun definition hdefinition ↦
    (style.carries_structBlock (h definition hdefinition)).behind_emptyLine)

/-! ### Outputs -/

theorem codeLines_render_message (hdialect : style.dialect = .message)
    (h : ∀ definition ∈ definitions, definition.HasPlainNames) :
    codeLines (style.render definitions) = definitions.flatMap style.messageCode := by
  rw [render, hdialect]
  exact (style.carries_messageLines h).codeLines_unlines

theorem codeLines_render_struct (hdialect : style.dialect = .struct)
    (hpackage : '\n' ∉ style.package)
    (h : ∀ definition ∈ definitions, definition.HasPlainNames) :
    codeLines (style.render definitions) =
      ("package " ++ style.package) :: definitions.flatMap style.structCode := by
  rw [render, hdialect]
  exact (style.carries_structLines hpackage h).codeLines_unlines

/-- What does not depend on descriptions is the same for definitions that differ in them only. -/
theorem flatMap_eq_of_undescribed {f : Definition → List Text}
    (hf : ∀ definition, f definition.undescribed = f definition)
    {definitions' : List Definition}
    (h : definitions'.map Definition.undescribed = definitions.map Definition.undescribed) :
    definitions'.flatMap f = definitions.flatMap f := by
  calc definitions'.flatMap f = (definitions'.map Definition.undescribed).flatMap f := by
        simp [List.flatMap_map, hf]
    _ = (definitions.map Definition.undescribed).flatMap f := by rw [h]
    _ = definitions.flatMap f := by simp [List.flatMap_map, hf]

theorem hasPlainNames_of_undescribed {definitions' : List Definition}
    (h : ∀ definition ∈ definitions, definition.HasPlainNames)
    (hundescribed :
      definitions'.map Definition.undescribed = definitions.map Definition.undescribed) :
    ∀ definition ∈ definitions', definition.HasPlainNames := fun definition hdefinition ↦ by
  have hmem := List.mem_map_of_mem (f := Definition.undescribed) hdefinition
  rw [hundescribed] at hmem
  obtain ⟨other, hother, heq⟩ := List.mem_map.1 hmem
  exact Definition.hasPlainNames_undescribed.1
    (heq ▸ Definition.hasPlainNames_undescribed.2 (h other hother))

/-- The code of an output is the declarations of its definitions, behind the package in the struct
dialect. So two outputs have the same code when they differ in the width of comments and in the
descriptions only. -/
theorem codeLines_render (style : Style) (definitions : List Definition)
    (hpackage : '\n' ∉ style.package)
    (h : ∀ definition ∈ definitions, definition.HasPlainNames) :
    (style.dialect = .message →
      codeLines (style.render definitions) = definitions.flatMap style.messageCode) ∧
    (style.dialect = .struct →
      codeLines (style.render definitions) =
        ("package " ++ style.package) :: definitions.flatMap style.structCode) ∧
    (style.dialect ≠ .json → ∀ width definitions',
      definitions'.map Definition.undescribed = definitions.map Definition.undescribed →
      codeLines (Style.render { style with width } definitions') =
        codeLines (style.render definitions)) := by
  refine ⟨fun hdialect ↦ style.codeLines_render_message hdialect h,
    fun hdialect ↦ style.codeLines_render_struct hdialect hpackage h,
    fun hdialect width definitions' hundescribed ↦ ?_⟩
  have h' := hasPlainNames_of_undescribed h hundescribed
  have hcases : style.dialect = .message ∨ style.dialect = .struct := by
    revert hdialect
    cases style.dialect <;> simp
  rcases hcases with hmessage | hstruct
  · calc codeLines (Style.render { style with width } definitions')
        = definitions'.flatMap style.messageCode :=
          codeLines_render_message { style with width } hmessage h'
      _ = definitions.flatMap style.messageCode :=
          flatMap_eq_of_undescribed style.messageCode_undescribed hundescribed
      _ = codeLines (style.render definitions) := (style.codeLines_render_message hmessage h).symm
  · calc codeLines (Style.render { style with width } definitions')
        = ("package " ++ style.package) :: definitions'.flatMap style.structCode :=
          codeLines_render_struct { style with width } hstruct hpackage h'
      _ = ("package " ++ style.package) :: definitions.flatMap style.structCode :=
          congrArg _ (flatMap_eq_of_undescribed style.structCode_undescribed hundescribed)
      _ = codeLines (style.render definitions) :=
          (style.codeLines_render_struct hstruct hpackage h).symm

/-- A type whose descriptions look like code. -/
def misleading : Definition where
  name := "Foo"
  description := "A thing.\n\x7d\n\ntype Bar struct \x7b // no type"
  parameters := [⟨"chat_id", "Array of Integer", true, "\x7d // A number\n  ID string"⟩]
  kind := .type

theorem codeLines_of_misleading :
    codeLines (Style.render { width := 3 } [misleading]) =
      (["package telegram", "type Foo struct \x7b", "  ChatID []int64 `json:\"chat_id\"`", "\x7d"] :
        List Text) := by
  have hname := List.all_eq_true.1 (show misleading.parameters.all fun parameter ↦
    parameter.name.all fun c ↦ Unicode.isAlphanumeric c || c == '_' by decide)
  have hplain : misleading.HasPlainNames :=
    ⟨by decide, fun parameter hmem ↦ List.all_eq_true.1 (hname parameter hmem)⟩
  have hcode := codeLines_render { width := 3 } [misleading] (by decide)
    (List.forall_mem_singleton.2 hplain)
  exact (hcode.2.1 rfl).trans (by decide +kernel)

/-- A structure without fields has no line for its end. -/
theorem codeLines_of_structure_without_fields :
    let empty : Definition := ⟨"A", "", [], .type⟩
    empty.HasPlainNames ∧
    codeLines (Style.render {} [empty]) =
      (["package telegram", "type A struct \x7b\x7d"] : List Text) ∧
    codeLines (Style.render {} [empty]) ≠ "package telegram".toList :: spreadStructCode {} empty :=
  ⟨⟨by decide, List.forall_mem_nil _⟩, by decide +kernel, by decide +kernel⟩

end Style

end ApiReference.Output
