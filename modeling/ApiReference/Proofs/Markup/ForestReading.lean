import ApiReference.Proofs.Markup.TokenReading

/-!
# Reading forests

A reader reports of a written forest exactly the events of the forest, and passes through its
depths. What is reported about a part does not depend on what is written behind it, so the steps are
found with any markup behind the forest and any elements around it.

## Main results

* `Reader.steps_queued`: queued events are reported without a change of the depth.
* `Reader.steps_leaf_append`: the steps of a leaf.
* `Reader.steps_markup_append`: the steps of a forest with markup behind it.
* `events_ofMarkup`: the events of a forest.
-/

namespace ApiReference.Markup

open Text

variable {enclosing : OpenElements} {rest : Text}

/-! ### Steps of a reader -/

namespace Reader

/-- Two readers with the same next event and the same depth take the same steps. -/
theorem steps_congr {r r' : Reader} (hnext : r.next? = r'.next?) (hdepth : r.depth = r'.depth) :
    r.steps = r'.steps := by
  cases h : r'.next? with
  | none => rw [steps_of_next?_eq_none h, steps_of_next?_eq_none (hnext.trans h)]
  | some next =>
    rw [steps_of_next?_eq_some h, steps_of_next?_eq_some (hnext.trans h), hdepth]

/-- Queued events are reported first, and none of them changes the depth. -/
theorem steps_queued (s : Text) (elements : OpenElements) (queued : List Event) :
    steps ⟨s, elements, queued⟩ =
      queued.map (⟨elements.length, ·, elements.length⟩) ++ steps ⟨s, elements, []⟩ := by
  induction queued with
  | nil => rfl
  | cons event queued ih =>
    rw [steps_of_next?_eq_some rfl, ih]
    rfl

/-- Nothing is read at the end of the markup. -/
theorem steps_nil (elements : OpenElements) : steps ⟨[], elements, []⟩ = [] :=
  steps_of_next?_eq_none (by simp only [next?, Token.read?_nil])

theorem steps_of_behindIgnored? {s : Text} (h : behindIgnored? s = some rest)
    (elements : OpenElements) : steps ⟨s, elements, []⟩ = steps ⟨rest, elements, []⟩ :=
  steps_congr (by simp only [next?, Token.read?_of_behindIgnored? h]) rfl

theorem steps_text {characters : Text} (h : characters ≠ []) (hrest : StopsText rest)
    (elements : OpenElements) :
    steps ⟨escape '<' characters ++ rest, elements, []⟩ =
      ⟨elements.length, .text characters, elements.length⟩ :: steps ⟨rest, elements, []⟩ := by
  have hnext : next? ⟨escape '<' characters ++ rest, elements, []⟩ =
      some (.text characters, ⟨rest, elements, []⟩) := by
    simp only [next?, Token.read?_text h hrest]
  exact steps_of_next?_eq_some hnext

theorem steps_endTag {tag : EndTag} (h : tag.WellFormed) (elements : OpenElements) :
    steps ⟨tag.markup ++ rest, elements, []⟩ =
      ⟨elements.length, tag.closing, (elements.leave (asciiLower tag.name)).length⟩ ::
        steps ⟨rest, elements.leave (asciiLower tag.name), []⟩ := by
  have hnext : next? ⟨tag.markup ++ rest, elements, []⟩ =
      some (tag.closing, ⟨rest, elements.leave (asciiLower tag.name), []⟩) := by
    simp only [next?, Token.read?_endTag h, EndTag.closing]
  exact steps_of_next?_eq_some hnext

theorem steps_startTag {tag : StartTag} (h : tag.WellFormed) (elements : OpenElements) :
    steps ⟨tag.markup ++ rest, elements, []⟩ =
      ⟨elements.length, tag.opening, (afterStartTag tag.lowered rest elements).depth⟩ ::
        (afterStartTag tag.lowered rest elements).steps := by
  have hnext : next? ⟨tag.markup ++ rest, elements, []⟩ =
      some (tag.opening, afterStartTag tag.lowered rest elements) := by
    simp only [next?, Token.read?_startTag h, StartTag.opening, StartTag.lowered]
  exact steps_of_next?_eq_some hnext

/-! ### Behind a start tag -/

theorem mem_rawTextElements {name : Text} (h : isRawText name) :
    name = "script".toList ∨ name = "style".toList := by
  simpa [isRawText, rawTextElements] using h

theorem isVoid_of_isRawText {name : Text} (h : isRawText name) : isVoid name = false := by
  rcases mem_rawTextElements h with rfl | rfl <;> decide

theorem afterStartTag_lone {tag : StartTag} (h : isVoid tag.name ∨ tag.selfClosing) (s : Text)
    (elements : OpenElements) :
    afterStartTag tag s elements =
      ⟨s, elements, if isVoid tag.name then [] else [.closed tag.name]⟩ := by
  cases hvoid : isVoid tag.name
  · simp_all [afterStartTag, OpenElements.enter]
  · have hraw : isRawText tag.name = false := by
      rw [← Bool.not_eq_true]
      intro hraw
      simp [isVoid_of_isRawText hraw] at hvoid
    simp [afterStartTag, OpenElements.enter, hvoid, hraw]

theorem afterStartTag_element {tag : StartTag} (hself : tag.selfClosing = false)
    (hvoid : isVoid tag.name = false) (hraw : isRawText tag.name = false) (s : Text)
    (elements : OpenElements) :
    afterStartTag tag s elements = ⟨s, tag.name :: elements, []⟩ := by
  simp [afterStartTag, OpenElements.enter, hself, hvoid, hraw]

/-- The start tag of an element with an end tag of its own puts the element on the stack. -/
theorem steps_element {tag : StartTag} {endTag : EndTag} (h : Paired tag endTag)
    (hvoid : isVoid (asciiLower tag.name) = false) (hraw : isRawText (asciiLower tag.name) = false)
    (elements : OpenElements) :
    steps ⟨tag.markup ++ rest, elements, []⟩ =
      ⟨elements.length, tag.opening, elements.length + 1⟩ ::
        steps ⟨rest, asciiLower tag.name :: elements, []⟩ := by
  have hself : tag.lowered.selfClosing = false := h.not_selfClosing
  have hname : tag.lowered.name = asciiLower tag.name := rfl
  rw [steps_startTag h.wellFormed_startTag,
    afterStartTag_element hself (hname ▸ hvoid) (hname ▸ hraw), hname]
  rfl

/-- The content of a raw-text element reaches to the first end tag whose name starts with that of
the element. -/
theorem afterStartTag_content {tag : StartTag} {content endName : Text}
    (hself : tag.selfClosing = false) (hraw : isRawText tag.name)
    (hend : asciiLower endName = tag.name)
    (hcontent : ¬ '<' :: '/' :: tag.name <:+: asciiLower content) (behind : Text)
    (elements : OpenElements) :
    afterStartTag tag (content ++ '<' :: '/' :: (endName ++ behind)) elements =
      afterEndTag (endName ++ behind) (tag.name :: elements)
        (if content = [] then [] else [.text content]) := by
  have hname : '<' ∉ tag.name := by
    rcases mem_rawTextElements hraw with h | h <;> rw [h] <;> decide
  have hread := readRawText_append_endTag hname hend hcontent behind
  rw [afterStartTag, hself, hread]
  simp only [Bool.false_and, Bool.false_eq_true, if_false, hraw, if_true, List.isEmpty_cons,
    List.isEmpty_iff, List.drop_succ_cons, List.drop_zero, OpenElements.enter,
    isVoid_of_isRawText hraw]

theorem afterStartTag_raw {tag : StartTag} {content : Text} {endTag : EndTag}
    (h : (Leaf.raw tag content endTag).WellFormed enclosing) (elements : OpenElements) :
    afterStartTag tag.lowered (content ++ endTag.markup ++ rest) elements =
      ⟨rest, elements, (if content = [] then [] else [.text content]) ++ [endTag.closing]⟩ := by
  obtain ⟨hpaired, hraw, hcontent⟩ := h
  have hmarkup : content ++ endTag.markup ++ rest =
      content ++ '<' :: '/' :: (endTag.name ++ (endTag.trailing ++ '>' :: rest)) := by
    simp [EndTag.markup]
  have hlowered : tag.lowered.name = asciiLower tag.name := rfl
  have hself : tag.lowered.selfClosing = false := hpaired.not_selfClosing
  rw [hmarkup, afterStartTag_content hself hraw hpaired.name_eq hcontent, afterEndTag,
    readEndTag_markup hpaired.wellFormed_endTag, hlowered, hpaired.name_eq]
  simp only [OpenElements.leave_cons_self, EndTag.closing, hpaired.name_eq]

end Reader

/-! ### Steps of a forest -/

/-- A leaf is read without what is behind it. -/
theorem Reader.steps_leaf_append {leaf : Leaf} (h : leaf.WellFormed enclosing)
    (hrest : leaf.IsText → StopsText rest) :
    Reader.steps ⟨leaf.markup ++ rest, enclosing, []⟩ =
      leaf.events.map (⟨enclosing.length, ·, enclosing.length⟩) ++
        Reader.steps ⟨rest, enclosing, []⟩ := by
  cases leaf with
  | text characters => exact steps_text h (hrest trivial) enclosing
  | comment content => exact steps_of_behindIgnored? (behindIgnored?_comment h rest) enclosing
  | declaration content =>
    exact steps_of_behindIgnored? (behindIgnored?_declaration h rest) enclosing
  | instruction content =>
    exact steps_of_behindIgnored? (behindIgnored?_instruction h rest) enclosing
  | lone tag =>
    rw [Leaf.markup, steps_startTag h.1, afterStartTag_lone h.2, steps_queued]
    rfl
  | raw tag content endTag =>
    rw [Leaf.markup, List.append_assoc, steps_startTag h.1.wellFormed_startTag, afterStartTag_raw h,
      steps_queued]
    rfl
  | stray endTag =>
    rw [Leaf.markup, steps_endTag h.1, OpenElements.leave_of_not_mem h.2]
    rfl

/-- Where a text cannot follow, what is behind a text can. -/
theorem Forest.stopsText_markup_append {f : Forest} (h : f.WellFormed enclosing)
    (hf : ¬ f.StartsWithText) (hrest : StopsText rest) : StopsText (f.markup ++ rest) := by
  cases f with
  | nil => exact hrest
  | element tag children endTag f => simp [StopsText, markup, StartTag.markup]
  | leaf first f =>
    cases first with
    | text characters => exact absurd trivial hf
    | comment content => simp [StopsText, markup, Leaf.markup]
    | declaration content => simp [StopsText, markup, Leaf.markup]
    | instruction content => simp [StopsText, markup, Leaf.markup]
    | lone tag => simp [StopsText, markup, Leaf.markup, StartTag.markup]
    | raw tag content endTag => simp [StopsText, markup, Leaf.markup, StartTag.markup]
    | stray endTag => simp [StopsText, markup, Leaf.markup, EndTag.markup]

/-- A forest is read without what is behind it. -/
theorem Reader.steps_markup_append {f : Forest} (h : f.WellFormed enclosing)
    (hrest : StopsText rest) :
    Reader.steps ⟨f.markup ++ rest, enclosing, []⟩ =
      f.steps enclosing.length ++ Reader.steps ⟨rest, enclosing, []⟩ := by
  induction f generalizing enclosing rest with
  | nil => rfl
  | leaf first f ih =>
    obtain ⟨hfirst, htexts, hf⟩ := h
    have hstop : first.IsText → StopsText (f.markup ++ rest) := fun htext ↦
      Forest.stopsText_markup_append hf (fun hstarts ↦ htexts ⟨htext, hstarts⟩) hrest
    rw [Forest.markup, List.append_assoc, steps_leaf_append hfirst hstop, ih hf hrest, Forest.steps,
      List.append_assoc]
  | element tag children endTag f ihChildren ih =>
    obtain ⟨hpaired, hvoid, hraw, hchildren, hf⟩ := h
    have hstop : StopsText (endTag.markup ++ (f.markup ++ rest)) := by
      simp [StopsText, EndTag.markup]
    have hmarkup : (Forest.element tag children endTag f).markup ++ rest =
        tag.markup ++ (children.markup ++ (endTag.markup ++ (f.markup ++ rest))) := by
      simp [Forest.markup]
    rw [hmarkup, steps_element hpaired hvoid hraw, ihChildren hchildren hstop,
      steps_endTag hpaired.wellFormed_endTag, hpaired.name_eq, OpenElements.leave_cons_self,
      ih hf hrest, Forest.steps]
    simp

/-- The steps of a written forest. -/
theorem Reader.steps_ofMarkup {f : Forest} (h : f.WellFormed []) :
    (Reader.ofMarkup f.markup).steps = f.steps 0 := by
  have hsteps := steps_markup_append h stopsText_nil
  rwa [steps_nil, List.append_nil, List.append_nil] at hsteps

/-- The events that are reported of a written forest are the events of the forest, and all its
elements are closed at the end. -/
theorem events_ofMarkup (f : Forest) (h : f.WellFormed []) :
    (Reader.ofMarkup f.markup).steps.map Step.event = f.events ∧
      ∀ step ∈ (Reader.ofMarkup f.markup).steps.getLast?, step.after = 0 := by
  rw [Reader.steps_ofMarkup h]
  exact ⟨f.map_event_steps 0, f.after_of_mem_getLast?_steps 0⟩

/-- Names are read in lower case, references are decoded, and raw text is left as it is. -/
theorem events_of_division :
    (Reader.ofMarkup
      "<DIV Id=\"a&amp;&quot;\">x &lt; y<br/><script>a<b</script><!-- > --></Div >").steps.map
        Step.event =
      [.opened "div" [⟨"id", "a&\""⟩], .text "x < y", .opened "br" [], .opened "script" [],
        .text "a<b", .closed "script", .closed "div"] := by
  let division : Forest :=
    .element ⟨"DIV", [⟨"Id", "a&\""⟩], false⟩
      (.leaf (.text "x < y") (.leaf (.lone ⟨"br", [], true⟩)
        (.leaf (.raw ⟨"script", [], false⟩ "a<b" { name := "script" })
          (.leaf (.comment " > ") .nil))))
      { name := "Div", trailing := " " } .nil
  have hmarkup : division.markup =
      "<DIV Id=\"a&amp;&quot;\">x &lt; y<br/><script>a<b</script><!-- > --></Div >" := by
    decide
  rw [← hmarkup, (events_ofMarkup division (by decide)).1]
  decide

end ApiReference.Markup
