import ApiReference.Proofs.Markup.ForestReading
import ApiReference.Proofs.Markup.Replay

/-!
# Reading raw text

The content of a raw-text element is one text, and no tags are looked for in it. It should end at
the element's own end tag, whose name is followed by white space, a slash or the `>` of the tag. It
does end at the first `</` with the name of the element behind it, also where the name goes on. The
reader takes the end tag there with the whole of its name, so that an end tag of a longer name cuts
the content off and does not close the element.

## Main definitions

* `startsOwnEndTag`, `HasNoEndTag`: the end tags of an element, and the texts without one.
* `Reader.rawTextSteps`: an opening, some content and an end.

## Main results

* `exists_first_endTag`: the first end tag whose name starts with that of an element.
* `Reader.run_content`: what is read of a raw-text element.
* `Reader.run_raw_iff`: the texts that are read as the content of the element.
-/

namespace ApiReference.Markup

open Text

variable {elements : OpenElements} {tag : StartTag} {endTag : EndTag}
  {name content content' endName endName' behind rest : Text}

/-! ### End tags -/

/-- Whether a text starts with the end tag of an element: with a `</`, the name of the element in
any case, and then white space, a slash, a `>` or nothing. -/
def startsOwnEndTag (name s : Text) : Bool :=
  startsEndTag name s &&
    (s.drop (name.length + 2)).head?.all fun c ↦ Unicode.isBlank c || c == '/' || c == '>'

/-- A text without an end tag of an element. -/
def HasNoEndTag (name content : Text) : Prop := ∀ s ∈ content.tails, startsOwnEndTag name s = false

instance (name content : Text) : Decidable (HasNoEndTag name content) :=
  inferInstanceAs (Decidable (∀ s ∈ content.tails, startsOwnEndTag name s = false))

/-- Where a name occurs behind a `</` it does so for a first time. -/
theorem exists_first_endTag (h : '<' :: '/' :: name <:+: asciiLower content) :
    ∃ before endName behind, content = before ++ '<' :: '/' :: (endName ++ behind) ∧
      asciiLower endName = name ∧ ¬ '<' :: '/' :: name <:+: asciiLower before := by
  induction content with
  | nil => simp [asciiLower] at h
  | cons c content ih =>
    by_cases hstart : startsEndTag name (c :: content)
    · obtain ⟨endName, behind, hcontent, hname⟩ := exists_eq_append_of_startsEndTag hstart
      exact ⟨[], endName, behind, hcontent, hname, by simp [asciiLower]⟩
    · have hinfix : '<' :: '/' :: name <:+: asciiLower content :=
        (List.infix_cons_iff.1 h).resolve_left fun hhead ↦ hstart (startsEndTag_iff.2 hhead)
      obtain ⟨before, endName, behind, rfl, hname, hbefore⟩ := ih hinfix
      refine ⟨c :: before, endName, behind, rfl, hname, fun hinfix ↦ ?_⟩
      rcases List.infix_cons_iff.1 hinfix with hhead | hinfix
      · refine hstart (startsEndTag_iff.2 (hhead.trans ?_))
        exact (List.prefix_append (c :: before) _).map Char.toLower
      · exact hbefore hinfix

namespace Reader

/-! ### Raw-text elements -/

/-- The steps from the opening of a raw-text element to an end tag, with the depth before the
element and the depth behind the end tag. -/
def rawTextSteps (before after : Nat) (tag : StartTag) (content endName : Text) : List Step :=
  ⟨before, tag.opening, after⟩ ::
    ((if content = [] then [] else [Event.text content]) ++ [Event.closed endName]).map
      (⟨after, ·, after⟩)

/-- The steps tell the content. -/
theorem content_eq_of_rawTextSteps_append {before after before' after' : Nat}
    {steps steps' : List Step}
    (h : rawTextSteps before after tag content endName ++ steps =
      rawTextSteps before' after' tag content' endName' ++ steps') : content = content' := by
  cases content <;> cases content' <;> simp_all [rawTextSteps]

/-- The content of a raw-text element ends before the first end tag whose name starts with that of
the element. This end tag is read with all of its name, and closes what has this name. -/
theorem run_content (htag : tag.WellFormed) (hself : tag.selfClosing = false)
    (hraw : isRawText (asciiLower tag.name)) (hend : asciiLower endName = asciiLower tag.name)
    (hcontent : ¬ '<' :: '/' :: asciiLower tag.name <:+: asciiLower content)
    (hread : readEndTag (endName ++ behind) = (name, rest)) (elements : OpenElements) :
    let left := OpenElements.leave name (asciiLower tag.name :: elements)
    Run ⟨tag.markup ++ (content ++ '<' :: '/' :: (endName ++ behind)), elements, []⟩
      (rawTextSteps elements.length left.length tag content name) ⟨rest, left, []⟩ := by
  intro left
  have hlowered : tag.lowered.selfClosing = false := hself
  have hafter := afterStartTag_content hlowered hraw hend hcontent behind elements
  rw [afterEndTag, hread] at hafter
  have hnext : next? ⟨tag.markup ++ (content ++ '<' :: '/' :: (endName ++ behind)), elements, []⟩ =
      some (tag.opening, ⟨rest, left,
        (if content = [] then [] else [.text content]) ++ [.closed name]⟩) := by
    simp only [next?, Token.read?_startTag htag, hafter]
    rfl
  exact (Run.start.step hnext).queued

/-- A text between the tags of a raw-text element is read as the content of the element, with the
same elements open behind the element as before it, exactly when no end tag in the text has a name
that starts with that of the element. -/
theorem run_raw_iff (h : Paired tag endTag) (hraw : isRawText (asciiLower tag.name))
    (content rest : Text) (elements : OpenElements) :
    Run ⟨tag.markup ++ (content ++ (endTag.markup ++ rest)), elements, []⟩
        (rawTextSteps elements.length elements.length tag content (asciiLower tag.name))
        ⟨rest, elements, []⟩ ↔
      ¬ '<' :: '/' :: asciiLower tag.name <:+: asciiLower content := by
  have hmarkup : endTag.markup ++ rest =
      '<' :: '/' :: (endTag.name ++ (endTag.trailing ++ '>' :: rest)) := by
    simp [EndTag.markup]
  constructor
  · intro hrun hinfix
    obtain ⟨before, endName, behind, rfl, hend, hbefore⟩ := exists_first_endTag hinfix
    -- What is read instead has a shorter content.
    obtain ⟨name, left, hread⟩ : ∃ name left,
        readEndTag (endName ++ (behind ++ (endTag.markup ++ rest))) = (name, left) := ⟨_, _, rfl⟩
    have hcut :=
      run_content h.wellFormed_startTag h.not_selfClosing hraw hend hbefore hread elements
    have hsteps := hrun.steps_eq.symm
    rw [List.append_assoc, List.cons_append, List.cons_append, List.append_assoc,
      hcut.steps_eq] at hsteps
    have hcontent := content_eq_of_rawTextSteps_append hsteps
    simp at hcontent
  · intro hcontent
    have hread := readEndTag_markup h.wellFormed_endTag rest
    rw [h.name_eq] at hread
    have hrun := run_content h.wellFormed_startTag h.not_selfClosing hraw h.name_eq hcontent hread
      elements
    rwa [OpenElements.leave_cons_self, ← hmarkup] at hrun

/-- What looks like a tag in a script is text, and the paragraph around the script stays open. -/
theorem run_of_script :
    Run ⟨"<SCRIPT>if (a<b) x = \"</p>\";</Script >t", ["p".toList], []⟩
      [⟨1, .opened "script" [], 1⟩, ⟨1, .text "if (a<b) x = \"</p>\";", 1⟩,
        ⟨1, .closed "script", 1⟩]
      ⟨"t", ["p".toList], []⟩ := by
  have hpaired : Paired ⟨"SCRIPT", [], false⟩ { name := "Script", trailing := " " } := by decide
  exact (run_raw_iff hpaired (by decide) "if (a<b) x = \"</p>\";" "t" ["p".toList]).2
    (by decide +kernel)

/-- An end tag of a longer name does not end a script, and yet the content of the script ends before
it. The end tag closes nothing, so that the script stays open behind it. -/
theorem steps_of_longer_endTag :
    HasNoEndTag "script" "a</scripts>b" ∧
    (ofMarkup "<script>a</scripts>b</script>").steps =
      [⟨0, .opened "script" [], 1⟩, ⟨1, .text "a", 1⟩, ⟨1, .closed "scripts", 1⟩,
        ⟨1, .text "b", 1⟩, ⟨1, .closed "script", 0⟩] ∧
    ¬ (ofMarkup "<script>a</scripts>b</script>").Run
      (rawTextSteps 0 0 ⟨"script", [], false⟩ "a</scripts>b" "script") ⟨[], [], []⟩ := by
  have hscript : (ofMarkup "<script>a</scripts>b</script>").next? = some (.opened "script" [],
      ⟨"b</script>", ["script".toList], [.text "a", .closed "scripts"]⟩) := by
    decide +kernel
  have htext : next? ⟨"b</script>", ["script".toList], []⟩ =
      some (.text "b", ⟨"</script>", ["script".toList], []⟩) := by
    decide +kernel
  have hend : next? ⟨"</script>", ["script".toList], []⟩ =
      some (.closed "script", ⟨[], [], []⟩) := by
    decide +kernel
  have hnone : next? ⟨[], [], []⟩ = none := by decide +kernel
  have hsteps : (ofMarkup "<script>a</scripts>b</script>").steps =
      [⟨0, .opened "script" [], 1⟩, ⟨1, .text "a", 1⟩, ⟨1, .closed "scripts", 1⟩,
        ⟨1, .text "b", 1⟩, ⟨1, .closed "script", 0⟩] := by
    rw [steps_of_next?_eq_some hscript, steps_queued, steps_of_next?_eq_some htext,
      steps_of_next?_eq_some hend, steps_of_next?_eq_none hnone]
    rfl
  refine ⟨by decide +kernel, hsteps, fun hrun ↦ ?_⟩
  have heq := hrun.steps_eq
  rw [hsteps] at heq
  cases heq

end Reader

end ApiReference.Markup
