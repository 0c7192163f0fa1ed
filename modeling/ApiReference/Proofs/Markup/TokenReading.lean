import ApiReference.Proofs.Markup.Forest
import ApiReference.Proofs.Unicode.CodePoint

/-!
# Reading written tokens

What has been written as a tag or as a text is read as one token, and what has been written as a
comment, a declaration or an instruction is passed over. The content of a raw-text element reaches
to its end tag.

## Main results

* `Token.read?_of_behindIgnored?`, `Token.read?_of_eq_none`: the first token lies behind what is
  passed over.
* `Token.read?_startTag`, `Token.read?_endTag`, `Token.read?_text`: a written token is read.
* `behindIgnored?_comment`, `behindIgnored?_declaration`, `behindIgnored?_instruction`: what is
  passed over.
* `exists_eq_append_of_startsEndTag`: what a text looks like that starts with an end tag.
* `readRawText_append_endTag`: the content of a raw-text element.
-/

namespace ApiReference.Markup

open Text

/-! ### What is passed over -/

theorem dropIgnored_of_eq_some {s rest : Text} (h : behindIgnored? s = some rest) :
    dropIgnored s = dropIgnored rest := by
  rw [dropIgnored]
  split <;> simp_all

theorem dropIgnored_of_eq_none {s : Text} (h : behindIgnored? s = none) : dropIgnored s = s := by
  rw [dropIgnored]
  split <;> simp_all

/-- The first token lies behind what is passed over. -/
theorem Token.read?_of_behindIgnored? {s rest : Text} (h : behindIgnored? s = some rest) :
    Token.read? s = Token.read? rest := by
  rw [Token.read?, Token.read?, dropIgnored_of_eq_some h]

@[simp] theorem Token.read?_nil : Token.read? [] = none := by
  rw [Token.read?, dropIgnored_of_eq_none rfl]

/-- The first token, where nothing is passed over. -/
theorem Token.read?_of_eq_none {c : Char} {rest : Text} (h : behindIgnored? (c :: rest) = none) :
    Token.read? (c :: rest) =
      if c = '<' ∧ startsName rest then
        some (.startTag (readStartTag rest).1, (readStartTag rest).2)
      else if c = '<' ∧ rest.head? = some '/' ∧ startsName rest.tail then
        some (.endTag (readEndTag rest.tail).1, (readEndTag rest.tail).2)
      else some (.text (readText c rest).1, (readText c rest).2) := by
  rw [Token.read?, dropIgnored_of_eq_none h]

/-- A pattern that is written behind a text is found there when it occurs nowhere before. -/
theorem afterFirst_append {pattern s : Text} (hpattern : pattern ≠ [])
    (h : ¬ pattern <:+: (s ++ pattern).dropLast) (rest : Text) :
    afterFirst pattern (s ++ (pattern ++ rest)) = rest := by
  induction s with
  | nil =>
    obtain ⟨c, pattern, rfl⟩ := List.exists_cons_of_ne_nil hpattern
    simp [afterFirst]
  | cons c s ih =>
    rw [List.cons_append, List.dropLast_cons_of_ne_nil (by simp [hpattern]), List.infix_cons_iff,
      not_or] at h
    -- The pattern is no longer than what is known not to start with it.
    have hstart : ¬ pattern <+: c :: (s ++ (pattern ++ rest)) := by
      intro hprefix
      refine h.1 (List.prefix_of_prefix_length_le hprefix ?_ ?_)
      · rw [← List.append_assoc, List.cons_prefix_cons]
        exact ⟨rfl, (List.dropLast_prefix _).trans (List.prefix_append _ _)⟩
      · have := List.length_pos_iff.2 hpattern
        simp only [List.length_cons, List.length_dropLast, List.length_append]
        omega
    rw [List.cons_append, afterFirst, if_neg (mt List.isPrefixOf_iff_prefix.1 hstart), ih h.2]

theorem behindIgnored?_comment {content : Text} {enclosing : List Text}
    (h : (Leaf.comment content).WellFormed enclosing) (rest : Text) :
    behindIgnored? ((Leaf.comment content).markup ++ rest) = some rest := by
  have hmarkup : (Leaf.comment content).markup.dropLast =
      ['<', '!'] ++ ('-' :: '-' :: content ++ ['-', '-', '>']).dropLast := by
    rw [← List.dropLast_append_of_ne_nil (by simp)]
    rfl
  have hend : ¬ ['-', '-', '>'] <:+: ('-' :: '-' :: content ++ ['-', '-', '>']).dropLast :=
    fun hinfix ↦ h (hmarkup ▸ hinfix.trans (List.suffix_append _ _).isInfix)
  have hafter := afterFirst_append (List.cons_ne_nil _ _) hend rest
  simpa [Leaf.markup, behindIgnored?] using hafter

theorem behindIgnored?_declaration {content : Text} {enclosing : List Text}
    (h : (Leaf.declaration content).WellFormed enclosing) (rest : Text) :
    behindIgnored? ((Leaf.declaration content).markup ++ rest) = some rest := by
  obtain ⟨hend, hdashes⟩ := h
  have hbehind : ((content ++ '>' :: rest).dropWhile (· != '>')).tail = rest := by
    rw [dropWhile_ne_append hend]
    rfl
  have hcomment : ∀ s, content ++ '>' :: rest ≠ '-' :: '-' :: s := by
    rintro s hs
    rcases content with _ | ⟨a, _ | ⟨b, content⟩⟩
    · simp at hs
    · simp at hs
    · obtain ⟨rfl, rfl, -⟩ : a = '-' ∧ b = '-' ∧ _ := by simpa using hs
      exact hdashes (List.prefix_append ['-', '-'] content)
  rw [Leaf.markup, List.append_assoc, List.singleton_append]
  simp only [List.cons_append]
  rw [behindIgnored?, hbehind]
  exact hcomment

theorem behindIgnored?_instruction {content : Text} {enclosing : List Text}
    (h : (Leaf.instruction content).WellFormed enclosing) (rest : Text) :
    behindIgnored? ((Leaf.instruction content).markup ++ rest) = some rest := by
  have hbehind : ((content ++ '>' :: rest).dropWhile (· != '>')).tail = rest := by
    rw [dropWhile_ne_append h]
    rfl
  simp [Leaf.markup, behindIgnored?, hbehind]

/-! ### Tokens -/

theorem startsName_append {name : Text} (h : IsElementName name) (rest : Text) :
    startsName (name ++ rest) := by
  cases name with
  | nil => exact absurd h.1 (by simp [startsName])
  | cons c name => exact h.1

/-- What starts with a name is neither passed over nor an end tag. -/
theorem behindIgnored?_of_startsName {s : Text} (h : startsName s) :
    behindIgnored? ('<' :: s) = none := by
  cases s with
  | nil => rfl
  | cons c rest =>
    have hbang : c ≠ '!' := by
      rintro rfl
      exact absurd h Bool.false_ne_true
    have hquestion : c ≠ '?' := by
      rintro rfl
      exact absurd h Bool.false_ne_true
    rw [behindIgnored?] <;> simp [hbang, hquestion]

theorem Token.read?_startTag {tag : StartTag} (h : tag.WellFormed) (rest : Text) :
    Token.read? (tag.markup ++ rest) = some (.startTag tag.lowered, rest) := by
  have hmarkup : tag.markup ++ rest = '<' :: (tag.name ++
      (tag.attributes.flatMap Attribute.markup ++ (tagEnd tag.selfClosing ++ rest))) := by
    simp [StartTag.markup]
  have hname : startsName (tag.name ++
      (tag.attributes.flatMap Attribute.markup ++ (tagEnd tag.selfClosing ++ rest))) :=
    startsName_append h.name _
  rw [hmarkup, Token.read?_of_eq_none (behindIgnored?_of_startsName hname)]
  simp only [hname, and_self, if_true, readStartTag_markup h]

theorem Token.read?_endTag {tag : EndTag} (h : tag.WellFormed) (rest : Text) :
    Token.read? (tag.markup ++ rest) = some (.endTag (asciiLower tag.name), rest) := by
  have hmarkup : tag.markup ++ rest =
      '<' :: '/' :: (tag.name ++ (tag.trailing ++ '>' :: rest)) := by
    simp [EndTag.markup]
  have hname : startsName (tag.name ++ (tag.trailing ++ '>' :: rest)) := startsName_append h.name _
  have hslash : startsName ('/' :: (tag.name ++ (tag.trailing ++ '>' :: rest))) = false := rfl
  have hignored :
      behindIgnored? ('<' :: '/' :: (tag.name ++ (tag.trailing ++ '>' :: rest))) = none := rfl
  rw [hmarkup, Token.read?_of_eq_none hignored]
  simp only [hname, hslash, List.head?_cons, List.tail_cons, and_true, if_true, if_false,
    readEndTag_markup h, Bool.false_eq_true, and_false]

/-- Where a text that has just been read can end: before a `<` and at the end of the markup. -/
def StopsText (s : Text) : Prop := ∀ c ∈ s.head?, c = '<'

theorem stopsText_nil : StopsText [] := fun _ h ↦ absurd h (Option.not_mem_none _)

theorem Token.read?_text {characters rest : Text} (h : characters ≠ []) (hrest : StopsText rest) :
    Token.read? (escape '<' characters ++ rest) = some (.text characters, rest) := by
  have hmem := notMem_escape (.inl rfl) characters
  have hdecode := decodeReferences_escape '<' characters
  obtain ⟨c, more, hescape⟩ := List.exists_cons_of_ne_nil (mt escape_eq_nil_iff.1 h)
  rw [hescape] at hmem hdecode ⊢
  obtain ⟨hc, hmore⟩ := not_or.1 (mt List.mem_cons.2 hmem)
  have hignored : behindIgnored? (c :: (more ++ rest)) = none := by
    unfold behindIgnored?
    split <;> simp_all
  have hrun : ∀ d ∈ more, (d != '<') = true := fun d hd ↦
    bne_iff_ne.2 (ne_of_mem_of_not_mem hd hmore)
  have hstop : ∀ d ∈ rest.head?, (d != '<') = false := fun d hd ↦ by simp [hrest d hd]
  rw [List.cons_append, Token.read?_of_eq_none hignored]
  simp only [Ne.symm hc, false_and, if_false]
  rw [readText, takeWhile_append_stop hrun hstop, dropWhile_append_stop hrun hstop, hdecode]

/-! ### Raw text -/

theorem startsEndTag_iff {name s : Text} :
    startsEndTag name s ↔ '<' :: '/' :: name <+: asciiLower s := by
  rw [startsEndTag, beq_iff_eq, List.prefix_iff_eq_take, eq_comm, asciiLower, asciiLower,
    List.map_take]
  rfl

/-- The start of an end tag is written with a `</`, whatever the case of its name. -/
theorem exists_eq_append_of_startsEndTag {name s : Text} (h : startsEndTag name s) :
    ∃ endName behind, s = '<' :: '/' :: (endName ++ behind) ∧ asciiLower endName = name := by
  obtain ⟨rest, hrest⟩ := startsEndTag_iff.1 h
  -- No letter becomes a `<` or a slash in lower case.
  obtain ⟨lead, behind, rfl, hlead, -⟩ := List.map_eq_append_iff.1 hrest.symm
  obtain ⟨a, lead, rfl, ha, hlead⟩ := List.map_eq_cons_iff.1 hlead
  obtain ⟨b, endName, rfl, hb, hname⟩ := List.map_eq_cons_iff.1 hlead
  obtain rfl : a = '<' := Unicode.eq_of_toLower_eq ha (by decide)
  obtain rfl : b = '/' := Unicode.eq_of_toLower_eq hb (by decide)
  exact ⟨endName, behind, rfl, hname⟩

/-- The content of a raw-text element is what stands before its end tag. -/
theorem readRawText_append_endTag {name endName content : Text} (hname : '<' ∉ name)
    (hend : asciiLower endName = name) (hcontent : ¬ '<' :: '/' :: name <:+: asciiLower content)
    (rest : Text) :
    readRawText name (content ++ '<' :: '/' :: (endName ++ rest)) =
      (content, '<' :: '/' :: (endName ++ rest)) := by
  induction content with
  | nil =>
    have hstart : startsEndTag name ('<' :: '/' :: (endName ++ rest)) := by
      rw [startsEndTag_iff, ← hend]
      exact ⟨asciiLower rest, by simp [asciiLower]⟩
    rw [List.nil_append, readRawText, if_pos hstart]
  | cons c content ih =>
    rw [asciiLower, List.map_cons, List.infix_cons_iff, not_or] at hcontent
    have hstart : ¬ startsEndTag name (c :: (content ++ '<' :: '/' :: (endName ++ rest))) := by
      -- The name has no `<`, so the start of an end tag in the content would lie inside it.
      have hlonger : ¬ asciiLower (c :: content) ++ ['<'] <+: '<' :: '/' :: name := by
        intro h
        rw [asciiLower, List.map_cons, List.cons_append, List.cons_prefix_cons] at h
        have hmem := h.2.subset (List.mem_append_right _ (List.mem_singleton.2 rfl))
        simp [hname] at hmem
      have hcut : asciiLower (c :: content) ++ ['<'] <+:
          asciiLower (c :: (content ++ '<' :: '/' :: (endName ++ rest))) :=
        ⟨asciiLower ('/' :: (endName ++ rest)), by simp [asciiLower]⟩
      intro h
      rcases List.prefix_or_prefix_of_prefix (startsEndTag_iff.1 h) hcut with h | h
      · rcases List.prefix_concat_iff.1 h with h | h
        · exact hlonger (h ▸ List.prefix_rfl)
        · exact hcontent.1 h
      · exact hlonger h
    rw [List.cons_append, readRawText, if_neg hstart, ih hcontent.2]

end ApiReference.Markup
