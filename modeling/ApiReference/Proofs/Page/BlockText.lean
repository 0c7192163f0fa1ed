import ApiReference.Proofs.Markup.LoneBracket
import ApiReference.Proofs.Page.UnclosedElement

/-!
# The text of a block

A block whose content is plain text makes one fragment: the text of the block, decoded and trimmed.
The content may hold brackets, as long as they start nothing. The reader cuts it at each of them and
the collector puts the runs together again, so that the fragment is that of the whole text. This
holds wherever on a page the block stands, as long as no other block is around it.

## Main definitions

* `ReachesBlock`: reading a page has come to the content of a block.

## Main results

* `Collector.foldl_handle_texts`: a collector puts texts together.
* `Collector.foldl_handle_block`: what a block of plain text adds to a collector.
* `loneBrackets_are_text`: the events of a text with lone brackets, and its fragment in a block.
-/

namespace ApiReference.Page

open Markup OpenElements

variable {page content name : Text} {steps : List Step} {outer : OpenElements} {kind : BlockKind}
  {endTag : EndTag}

namespace Collector

variable {c : Collector}

/-- Texts in a row are as good as one text. -/
theorem foldl_handle_texts (c : Collector) (texts : List Text) (depth : Nat) :
    (texts.map fun characters ↦ (⟨depth, .text characters, depth⟩ : Step)).foldl handle c =
      c.extend texts.flatten [] := by
  induction texts generalizing c with
  | nil => exact (extend_nil c).symm
  | cons characters texts ih =>
    have hhandle : c.handle ⟨depth, .text characters, depth⟩ = c.extend characters [] := rfl
    rw [List.map_cons, List.foldl_cons, hhandle, ih, extend_extend, List.flatten_cons,
      List.append_nil]

/-- A block of plain text adds one fragment to a collector, which goes on behind the block. -/
theorem foldl_handle_block (hc : c.Within outer.length) (hblock : c.openBlock = none)
    (hkind : BlockKind.ofElement? name = some kind) (hcontent : HasLoneBrackets content)
    (hend : endTag.WellFormed) (hname : Text.asciiLower endTag.name = name) (rest : Text) :
    (Reader.steps ⟨content ++ (endTag.markup ++ rest), name :: outer, []⟩).foldl handle
        (c.enter name outer.length) =
      (Reader.steps ⟨rest, outer, []⟩).foldl handle
        { c with
          collected := .block kind (Text.trim (decodeReferences content)) :: c.collected } := by
  have hstop : StopsText (endTag.markup ++ rest) := by
    simp [StopsText, EndTag.markup]
  have hruns := foldl_handle_texts (c.enter name outer.length)
    ((bracketRuns content).map decodeReferences) (name :: outer).length
  rw [flatten_map_decodeReferences_bracketRuns, List.map_map] at hruns
  have hclosing : ((c.enter name outer.length).extend (decodeReferences content) []).handle
      ⟨(name :: outer).length, endTag.closing, outer.length⟩ =
      { c with
        collected := .block kind (Text.trim (decodeReferences content)) :: c.collected } := by
    refine (close_extend_enter hc name (decodeReferences content) []).trans ?_
    rw [hblock, Option.isSome_none, closingFragments_of_block hkind, extend, append, hblock]
    rfl
  rw [Reader.steps_bracketRuns_append hcontent hstop, Reader.steps_endTag hend, hname,
    leave_cons_self, List.foldl_append, List.foldl_cons, ← hclosing, ← hruns]
  rfl

end Collector

/-- Reading a page has come to the content of a block that is in no other block: the steps before
its start tag are given, and what stands on the page from the content on. -/
structure ReachesBlock (page : Text) (steps : List Step) (kind : BlockKind) (name : Text)
    (outer : OpenElements) (inside : Text) : Prop where
  run : ∃ r attributes, (Reader.ofMarkup page).Run steps r ∧
    r.next? = some (.opened name attributes, ⟨inside, name :: outer, []⟩)
  kind_eq : BlockKind.ofElement? name = some kind
  not_block : ∀ other ∈ outer, ¬ IsBlock other

/-- The collector at the content of a block has just entered the block, and before that it mirrors
what is around the block. -/
theorem ReachesBlock.fragments_eq {inside : Text}
    (h : ReachesBlock page steps kind name outer inside) :
    let c := steps.foldl Collector.handle .empty
    c.Mirrors (steps.map Step.event) outer ∧
      fragments page = ((Reader.steps ⟨inside, name :: outer, []⟩).foldl Collector.handle
        (c.enter name outer.length)).finish := by
  obtain ⟨r, attributes, hrun, hnext⟩ := h.run
  have hname : isVoid name = false :=
    not_isVoid_of_isBlock (Option.isSome_of_eq_some h.kind_eq)
  have houter : outer = replay [] (steps.map Step.event) := by
    have hinside := (hrun.step hnext).replays.openElements_eq
    rw [List.append_nil, List.map_append, List.map_singleton, replay_concat,
      behind_opened_of_not_isVoid hname] at hinside
    exact (List.cons.inj hinside).2
  have hdepth : r.depth = outer.length := by
    have hfits := hrun.replays.fits (Reader.takes_of_next? hnext)
    exact houter ▸ hfits.before_eq
  refine ⟨houter ▸ Collector.mirrors_foldl hrun, ?_⟩
  rw [Collector.fragments_of_run (hrun.step hnext), Reader.foldSteps_eq_foldl, List.foldl_append,
    hdepth]
  rfl

/-- A text with lone brackets is reported as text, run by run, and nothing else is. The runs are
parts of the text, none of them empty, and what is reported of them is together the decoded text. In
a block that is in no other block, with its own end tag behind it, such a text makes one fragment:
the decoded text without the white space around it. -/
theorem loneBrackets_are_text :
    (∀ content, HasLoneBrackets content →
      let events := (Reader.ofMarkup content).steps.map Step.event
      (bracketRuns content).flatten = content ∧ [] ∉ bracketRuns content ∧
        events = (bracketRuns content).map (fun run ↦ .text (decodeReferences run)) ∧
        events.flatMap Event.content = decodeReferences content) ∧
    ∀ page steps kind name outer content endTag rest, HasLoneBrackets content →
      EndTag.WellFormed endTag → Text.asciiLower endTag.name = name →
      ReachesBlock page steps kind name outer (content ++ (endTag.markup ++ rest)) →
      let c := steps.foldl Collector.handle .empty
      fragments page = c.finish ++ .block kind (Text.trim (decodeReferences content)) ::
        ((Reader.steps ⟨rest, outer, []⟩).foldl Collector.handle
          { c with collected := [] }).finish := by
  refine ⟨fun content hcontent ↦ ?_,
    fun page steps kind name outer content endTag rest hcontent hend hname hreaches ↦ ?_⟩
  · have hevents := events_ofMarkup_of_hasLoneBrackets hcontent
    refine ⟨flatten_bracketRuns content, nil_notMem_bracketRuns content, hevents, ?_⟩
    rw [hevents, List.flatMap_map, ← flatten_map_decodeReferences_bracketRuns content]
    rfl
  · intro c
    obtain ⟨hmirrors, hpage⟩ := hreaches.fragments_eq
    have hblock : c.openBlock = none := hmirrors.openBlock_eq_none hreaches.not_block
    have hfinish := Collector.finish_foldl_handle (Reader.steps ⟨rest, outer, []⟩)
      { c with collected := [] }
      (.block kind (Text.trim (decodeReferences content)) :: c.collected)
    rw [hpage, Collector.foldl_handle_block hmirrors.within hblock hreaches.kind_eq hcontent hend
      hname]
    have hbefore : c.finish = c.collected.reverse := by
      rw [Collector.finish, hblock]
      simp
    refine hfinish.trans ?_
    rw [hbefore]
    simp

/-- Brackets before an ampersand, before a slash that no letter follows, before another bracket and
at the end. The ampersand in front of a bracket starts no reference. -/
theorem loneBrackets_of_cell :
    (Reader.ofMarkup "a<&lt; </ &<#38;<").steps.map Step.event =
        [.text "a", .text "<< ", .text "</ &", .text "<#38;", .text "<"] ∧
      fragments "<table>b<TD class=x> a<&lt; </ &<#38;<</td >c</table>" =
        [.block .cell "a<< </ &<#38;<", .tableEnd] := by
  let page : Text := "<table>b<TD class=x> a<&lt; </ &<#38;<</td >c</table>"
  let content : Text := " a<&lt; </ &<#38;<"
  have htable : (Reader.ofMarkup page).next? =
      some (.opened "table" [], ⟨page.drop 7, ["table".toList], []⟩) := by
    decide +kernel
  have htext : Reader.next? ⟨page.drop 7, ["table".toList], []⟩ =
      some (.text "b", ⟨page.drop 8, ["table".toList], []⟩) := by
    decide +kernel
  have hcell : Reader.next? ⟨page.drop 8, ["table".toList], []⟩ =
      some (.opened "td" [⟨"class", "x"⟩],
        ⟨content ++ (EndTag.markup { name := "td", trailing := " " } ++ "c</table>".toList),
          ["td".toList, "table".toList], []⟩) := by
    decide +kernel
  have hreaches : ReachesBlock page _ .cell "td" _
      (content ++ (EndTag.markup { name := "td", trailing := " " } ++ "c</table>".toList)) :=
    ⟨⟨_, _, (Reader.Run.start.step htable).step htext, hcell⟩, by decide,
      List.forall_mem_singleton.2 Bool.false_ne_true⟩
  constructor
  · rw [(loneBrackets_are_text.1 "a<&lt; </ &<#38;<" (by decide)).2.2.1]
    decide +kernel
  · rw [loneBrackets_are_text.2 page _ .cell _ _ content _ _ (by decide) (by decide) (by decide)
      hreaches]
    decide +kernel

end ApiReference.Page
