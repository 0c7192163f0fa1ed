import ApiReference.Proofs.Markup.Replay
import ApiReference.Proofs.Page.ForestFragments

/-!
# The state of a collector

A collector sees the depths of its reader and none of the open elements. Yet it always knows the
outermost block and the outermost table among them: the depths that it keeps are the numbers of
elements around the two. This holds of any markup, whose end tags may close many elements at once or
none, because the depth before an opening and the depth behind an end are those of the elements that
the reported events have left open. So a block is over exactly when its own element is gone.

## Main definitions

* `OpenElements.Outermost`: the outermost open element with a property.
* `OpenElements.OpenSince`: the events since an open element was opened.
* `Step.Fits`: a step gives the depths of the elements that are open behind the reported events.
* `Collector.Mirrors`: what a collector knows is so of the open elements.

## Main results

* `Reader.Replays.fits`: the steps of a reader fit.
* `Collector.Mirrors.handle`: a collector goes on to mirror the open elements.
* `Collector.blocks_handle_of_some`: a block is emitted when its element is gone, and only then.
* `Collector.mirrors_of_run`: the two for every run of a reader.
-/

namespace ApiReference.Markup

/-! ### Open elements -/

namespace OpenElements

variable {elements elements' outer : OpenElements} {name : Text} {p : Text → Prop}

/-- The outermost open element with a property, and what is around it. -/
structure Outermost (elements : OpenElements) (p : Text → Prop) (name : Text)
    (outer : OpenElements) : Prop where
  suffix : name :: outer <:+ elements
  holds : p name
  not_around : ∀ other ∈ outer, ¬ p other

/-- An element has been open since it was opened with `outer` around it, and these events have been
reported since. -/
inductive OpenSince (name : Text) (outer : OpenElements) : List Event → List Event → Prop
  | opened {events : List Event} (attributes : List Attribute)
      (helements : replay [] (events ++ [.opened name attributes]) = name :: outer) :
      OpenSince name outer (events ++ [.opened name attributes]) []
  | step {events since : List Event} {event : Event} (h : OpenSince name outer events since)
      (hopen : name :: outer <:+ replay [] (events ++ [event])) :
      OpenSince name outer (events ++ [event]) (since ++ [event])

/-- The innermost element has a property for the first time. -/
theorem outermost_cons (hname : p name) (h : ∀ other ∈ outer, ¬ p other) :
    Outermost (name :: outer) p name outer :=
  ⟨List.suffix_rfl, hname, h⟩

theorem Outermost.mono (h : elements.Outermost p name outer) (hsuffix : elements <:+ elements') :
    elements'.Outermost p name outer :=
  { h with suffix := h.suffix.trans hsuffix }

/-- An element stays open when more elements than those around it do. -/
theorem Outermost.of_suffix (h : elements.Outermost p name outer) (hsuffix : elements' <:+ elements)
    (hlength : outer.length < elements'.length) : elements'.Outermost p name outer :=
  { h with suffix := List.suffix_of_suffix_length_le h.suffix hsuffix hlength }

/-- No element with the property is left when the outermost one is gone. -/
theorem Outermost.not_of_suffix (h : elements.Outermost p name outer)
    (hsuffix : elements' <:+ elements) (hlength : elements'.length ≤ outer.length) :
    ∀ other ∈ elements', ¬ p other := by
  have houter := (List.suffix_cons name outer).trans h.suffix
  have hinside := List.suffix_of_suffix_length_le hsuffix houter hlength
  exact fun other hother ↦ h.not_around other (hinside.mem hother)

theorem suffix_behind_opened (elements : OpenElements) (name : Text)
    (attributes : List Attribute) : elements <:+ elements.behind (.opened name attributes) := by
  rw [behind]
  split
  · exact List.suffix_rfl
  · exact List.suffix_cons name elements

theorem eq_or_mem_of_mem_behind_opened {other : Text} {attributes : List Attribute}
    (h : other ∈ elements.behind (.opened name attributes)) : other = name ∨ other ∈ elements := by
  rw [behind] at h
  split at h
  · exact .inr h
  · exact List.mem_cons.1 h

theorem behind_opened_of_not_isVoid (hname : isVoid name = false) (attributes : List Attribute)
    (elements : OpenElements) : elements.behind (.opened name attributes) = name :: elements :=
  if_neg (Bool.eq_false_iff.1 hname)

theorem behind_closed_suffix (elements : OpenElements) (name : Text) :
    elements.behind (.closed name) <:+ elements :=
  leave_eq_behind name elements ▸ leave_suffix name elements

end OpenElements

/-! ### Steps -/

/-- The text that an event brings. -/
def Event.content : Event → Text
  | .text characters => characters
  | _ => []

/-- A step behind some events that gives the depths of the elements that the events have left open:
the depth before an opening and the depth behind an end. -/
inductive Step.Fits (events : List Event) : Step → Prop
  | opened (name : Text) (attributes : List Attribute) (after : Nat) :
      Fits events ⟨(OpenElements.replay [] events).length, .opened name attributes, after⟩
  | closed (before : Nat) (name : Text) :
      Fits events ⟨before, .closed name,
        (OpenElements.replay [] (events ++ [.closed name])).length⟩
  | text (before : Nat) (characters : Text) (after : Nat) :
      Fits events ⟨before, .text characters, after⟩

/-- The depth before an opening is that of the open elements. -/
theorem Step.Fits.before_eq {events : List Event} {name : Text} {attributes : List Attribute}
    {before after : Nat} (h : Step.Fits events ⟨before, .opened name attributes, after⟩) :
    before = (OpenElements.replay [] events).length := by
  cases h
  rfl

theorem Reader.Replays.depth_eq {events : List Event} {r : Reader} (h : r.Replays events)
    (hqueued : r.queued = []) : r.depth = (OpenElements.replay [] events).length := by
  have helements := h.openElements_eq
  rw [hqueued, List.append_nil] at helements
  exact congrArg List.length helements

/-- The steps of a reader fit: nothing is queued before an opening and behind an end. -/
theorem Reader.Replays.fits {events : List Event} {event : Event} {r r' : Reader}
    (h : r.Replays events) (htakes : r.Takes event r') :
    Step.Fits events ⟨r.depth, event, r'.depth⟩ := by
  have h' := h.of_takes htakes
  have hqueue := h.isQueue
  cases htakes with
  | queued s elements event queued =>
    cases hqueue with
    | content => exact .text ..
    | closing =>
      rw [h'.depth_eq rfl]
      exact .closed ..
    | contentAndClosing => exact .text ..
  | text => exact .text ..
  | closed =>
    rw [h'.depth_eq rfl]
    exact .closed ..
  | opened =>
    rw [h.depth_eq rfl]
    exact .opened ..

/-- Nothing is queued behind an end. -/
theorem Reader.Replays.queued_eq_nil_of_closed {events : List Event} {name : Text} {r r' : Reader}
    (h : r.Replays events) (htakes : r.Takes (.closed name) r') : r'.queued = [] := by
  have hqueue := h.isQueue
  cases htakes with
  | queued =>
    cases hqueue
    rfl
  | closed => rfl

end ApiReference.Markup

namespace ApiReference.Page

open Markup OpenElements

/-- Whether an element makes a block. -/
def IsBlock (name : Text) : Prop := (BlockKind.ofElement? name).isSome

theorem not_isVoid_of_isBlock {name : Text} (h : IsBlock name) : isVoid name = false := by
  refine Bool.eq_false_iff.2 fun hvoid ↦ ?_
  have hmem := List.mem_append_left rawTextElements (List.contains_iff_mem.1 hvoid)
  rw [IsBlock, (inline_of_mem name hmem).1] at h
  exact absurd h Bool.false_ne_true

/-- A block is that of the outermost open element that makes a block: it has the kind of the
element, the number of elements around it, and all the text that has been met since the element was
opened. -/
structure OpenBlock.Mirrors (block : OpenBlock) (events : List Event) (elements : OpenElements)
    (name : Text) (outer : OpenElements) : Prop where
  outermost : elements.Outermost IsBlock name outer
  kind_eq : BlockKind.ofElement? name = some block.kind
  length_eq : outer.length = block.depth
  text_eq : ∃ since, OpenSince name outer events since ∧ block.text = since.flatMap Event.content

/-- A block whose element is still open has got the text of the event. -/
theorem OpenBlock.Mirrors.append {block : OpenBlock} {events : List Event}
    {elements outer : OpenElements} {name : Text} (h : block.Mirrors events elements name outer)
    (event : Event)
    (houtermost : (replay [] (events ++ [event])).Outermost IsBlock name outer) :
    OpenBlock.Mirrors { block with text := block.text ++ event.content } (events ++ [event])
      (replay [] (events ++ [event])) name outer := by
  obtain ⟨since, hsince, htext⟩ := h.text_eq
  refine ⟨houtermost, h.kind_eq, h.length_eq, _, hsince.step houtermost.suffix, ?_⟩
  simp [htext]

/-- The block of an element that is opened where no element makes a block. -/
theorem OpenBlock.mirrors_opened {events : List Event} {name : Text} {kind : BlockKind}
    (hkind : BlockKind.ofElement? name = some kind)
    (hnone : ∀ other ∈ replay [] events, ¬ IsBlock other) (attributes : List Attribute) :
    OpenBlock.Mirrors ⟨kind, (replay [] events).length, []⟩ (events ++ [.opened name attributes])
      (replay [] (events ++ [.opened name attributes])) name (replay [] events) := by
  have hname : IsBlock name := by
    rw [IsBlock, hkind]
    rfl
  -- What makes a block is not void, so it is the innermost element now.
  have helements : replay [] (events ++ [.opened name attributes]) = name :: replay [] events := by
    rw [replay_concat, behind_opened_of_not_isVoid (not_isVoid_of_isBlock hname)]
  refine ⟨?_, hkind, rfl, [], .opened attributes helements, rfl⟩
  rw [helements]
  exact outermost_cons hname hnone

namespace Collector

variable {c : Collector} {events : List Event} {elements : OpenElements} {step : Step}

/-- The blocks that have been emitted, the latest first. -/
def blocks (c : Collector) : List Fragment := c.collected.filter (· != .tableEnd)

/-- What a collector knows is so of the elements that some events have left open. The open block is
that of the outermost element that makes a block, and the open table is the outermost one. Neither
is missing unless there is no such element. -/
structure Mirrors (c : Collector) (events : List Event) (elements : OpenElements) : Prop where
  block_none : c.openBlock = none → ∀ name ∈ elements, ¬ IsBlock name
  block_some : ∀ block ∈ c.openBlock, ∃ name outer, block.Mirrors events elements name outer
  table_none : c.tableDepth = none → ∀ name ∈ elements, ¬ name = "table"
  table_some : ∀ depth ∈ c.tableDepth, ∃ outer,
    elements.Outermost (· = "table") "table" outer ∧ outer.length = depth

/-- A collector is inside the elements that it mirrors. -/
theorem Mirrors.within (h : c.Mirrors events elements) : c.Within elements.length where
  block := by
    intro block hblock
    obtain ⟨name, outer, hmirrors⟩ := h.block_some block hblock
    exact hmirrors.length_eq ▸ hmirrors.outermost.suffix.length_le
  table := by
    intro depth hdepth
    obtain ⟨outer, houtermost, rfl⟩ := h.table_some depth hdepth
    exact houtermost.suffix.length_le

/-- No block is open when no open element makes one. -/
theorem Mirrors.openBlock_eq_none (h : c.Mirrors events elements)
    (hnone : ∀ name ∈ elements, ¬ IsBlock name) : c.openBlock = none := by
  refine Option.eq_none_iff_forall_ne_some.2 fun block hblock ↦ ?_
  obtain ⟨name, outer, hmirrors⟩ := h.block_some block hblock
  exact hnone name (hmirrors.outermost.suffix.mem List.mem_cons_self) hmirrors.outermost.holds

/-! ### The ends of blocks and tables -/

/-- What is open stays open at a depth that is greater than its own, and is over at any other. -/
theorem closeBlock_eq (c : Collector) (depth : Nat) :
    c.closeBlock depth = { c with
      openBlock := c.openBlock.filter (·.depth < depth)
      collected := ((c.openBlock.filter (depth ≤ ·.depth)).map OpenBlock.fragment).toList ++
        c.collected } := by
  obtain ⟨_ | block, tableDepth, collected⟩ := c
  · rfl
  · by_cases h : depth ≤ block.depth
    · simp [closeBlock, Option.filter, h, Nat.not_lt.2 h]
    · simp [closeBlock, Option.filter, h, Nat.not_le.1 h]

theorem closeTable_eq (c : Collector) (depth : Nat) :
    c.closeTable depth = { c with
      tableDepth := c.tableDepth.filter (· < depth)
      collected := ((c.tableDepth.filter (depth ≤ ·)).map fun _ ↦ .tableEnd).toList ++
        c.collected } := by
  obtain ⟨openBlock, _ | before, collected⟩ := c
  · rfl
  · by_cases h : depth ≤ before
    · simp [closeTable, Option.filter, h, Nat.not_lt.2 h]
    · simp [closeTable, Option.filter, h, Nat.not_le.1 h]

theorem openBlock_close (c : Collector) (depth : Nat) :
    (c.close depth).openBlock = c.openBlock.filter (·.depth < depth) := by
  rw [close, closeTable_eq, closeBlock_eq]

theorem tableDepth_close (c : Collector) (depth : Nat) :
    (c.close depth).tableDepth = c.tableDepth.filter (· < depth) := by
  rw [close, closeTable_eq, closeBlock_eq]

theorem blocks_close (c : Collector) (depth : Nat) :
    (c.close depth).blocks =
      ((c.openBlock.filter (depth ≤ ·.depth)).map OpenBlock.fragment).toList ++ c.blocks := by
  rw [close, closeTable_eq, closeBlock_eq, blocks, blocks, List.filter_append, List.filter_append]
  cases c.tableDepth.filter (depth ≤ ·) <;> cases c.openBlock.filter (depth ≤ ·.depth) <;> rfl

/-! ### One step -/

/-- An opening at the depth of the open elements. -/
theorem Mirrors.enter (h : c.Mirrors events (replay [] events)) (name : Text)
    (attributes : List Attribute) :
    (c.enter name (replay [] events).length).Mirrors (events ++ [.opened name attributes])
      (replay [] (events ++ [.opened name attributes])) := by
  have hsuffix := suffix_behind_opened (replay [] events) name attributes
  rw [← replay_concat] at hsuffix
  have hmem : ∀ other ∈ replay [] (events ++ [.opened name attributes]),
      other = name ∨ other ∈ replay [] events := by
    rw [replay_concat]
    exact fun other ↦ eq_or_mem_of_mem_behind_opened
  constructor
  · intro hnone other hother
    obtain ⟨hnone, hname⟩ := Option.or_eq_none_iff.1 hnone
    rcases hmem other hother with rfl | hother
    · rw [IsBlock, Option.map_eq_none_iff.1 hname]
      exact Bool.false_ne_true
    · exact h.block_none hnone other hother
  · intro block hblock
    rcases Option.or_eq_some_iff.1 hblock with hblock | ⟨hnone, hblock⟩
    · obtain ⟨inner, outer, hmirrors⟩ := h.block_some block hblock
      refine ⟨inner, outer, ?_⟩
      simpa [Event.content] using hmirrors.append _ (hmirrors.outermost.mono hsuffix)
    · obtain ⟨kind, hkind, rfl⟩ := Option.map_eq_some_iff.1 hblock
      exact ⟨name, replay [] events,
        OpenBlock.mirrors_opened hkind (h.block_none hnone) attributes⟩
  · intro hnone other hother
    obtain ⟨hnone, hname⟩ := Option.or_eq_none_iff.1 hnone
    rcases hmem other hother with rfl | hother
    · rintro rfl
      simp at hname
    · exact h.table_none hnone other hother
  · intro depth hdepth
    rcases Option.or_eq_some_iff.1 hdepth with hdepth | ⟨hnone, hdepth⟩
    · obtain ⟨outer, houtermost, hlength⟩ := h.table_some depth hdepth
      exact ⟨outer, houtermost.mono hsuffix, hlength⟩
    · split at hdepth
      · rename_i hname
        have hvoid : isVoid name = false := by
          rw [hname]
          decide
        rw [replay_concat, behind_opened_of_not_isVoid hvoid, hname]
        exact ⟨replay [] events, outermost_cons rfl (h.table_none hnone), Option.some.inj hdepth⟩
      · simp at hdepth

/-- Some text at any depth. -/
theorem Mirrors.append (h : c.Mirrors events (replay [] events)) (characters : Text) :
    (c.append characters).Mirrors (events ++ [.text characters])
      (replay [] (events ++ [.text characters])) := by
  have helements := replay_concat [] events (.text characters)
  rw [behind_text] at helements
  constructor
  · rw [helements]
    exact fun hnone ↦ h.block_none (Option.map_eq_none_iff.1 hnone)
  · intro block hblock
    obtain ⟨before, hbefore, rfl⟩ := Option.map_eq_some_iff.1 hblock
    obtain ⟨name, outer, hmirrors⟩ := h.block_some before hbefore
    exact ⟨name, outer, hmirrors.append (.text characters) (helements ▸ hmirrors.outermost)⟩
  · rw [helements]
    exact h.table_none
  · rw [helements]
    exact h.table_some

/-- An end, with the depth behind it. -/
theorem Mirrors.close (h : c.Mirrors events (replay [] events)) (name : Text) :
    (c.close (replay [] (events ++ [.closed name])).length).Mirrors (events ++ [.closed name])
      (replay [] (events ++ [.closed name])) := by
  have hsuffix := behind_closed_suffix (replay [] events) name
  rw [← replay_concat] at hsuffix
  constructor
  · rw [openBlock_close]
    intro hnone
    cases hblock : c.openBlock with
    | none => exact fun other hother ↦ h.block_none hblock other (hsuffix.mem hother)
    | some block =>
      obtain ⟨inner, outer, hmirrors⟩ := h.block_some block hblock
      refine hmirrors.outermost.not_of_suffix hsuffix ?_
      simpa [hblock, hmirrors.length_eq] using hnone
  · rw [openBlock_close]
    intro block hblock
    obtain ⟨hblock, hdepth⟩ := Option.filter_eq_some_iff.1 hblock
    obtain ⟨inner, outer, hmirrors⟩ := h.block_some block hblock
    rw [decide_eq_true_eq, ← hmirrors.length_eq] at hdepth
    refine ⟨inner, outer, ?_⟩
    simpa [Event.content] using hmirrors.append _ (hmirrors.outermost.of_suffix hsuffix hdepth)
  · rw [tableDepth_close]
    intro hnone
    cases htable : c.tableDepth with
    | none => exact fun other hother ↦ h.table_none htable other (hsuffix.mem hother)
    | some depth =>
      obtain ⟨outer, houtermost, hlength⟩ := h.table_some depth htable
      refine houtermost.not_of_suffix hsuffix ?_
      simpa [htable, hlength] using hnone
  · rw [tableDepth_close]
    intro depth hdepth
    obtain ⟨htable, hdepth⟩ := Option.filter_eq_some_iff.1 hdepth
    obtain ⟨outer, houtermost, hlength⟩ := h.table_some depth htable
    rw [decide_eq_true_eq, ← hlength] at hdepth
    exact ⟨outer, houtermost.of_suffix hsuffix hdepth, hlength⟩

/-- A collector goes on to mirror the open elements. -/
theorem Mirrors.handle (h : c.Mirrors events (replay [] events)) (hfits : step.Fits events) :
    (c.handle step).Mirrors (events ++ [step.event]) (replay [] (events ++ [step.event])) := by
  cases hfits with
  | opened name attributes => exact h.enter name attributes
  | closed _ name => exact h.close name
  | text _ characters => exact h.append characters

/-- A block is emitted when its own element is gone, and no block is emitted otherwise. -/
theorem blocks_handle_of_some {block : OpenBlock} {name : Text} {outer : OpenElements}
    (hblock : c.openBlock = some block) (hfits : step.Fits events)
    (hmirrors : block.Mirrors events (replay [] events) name outer) :
    (name :: outer <:+ replay [] (events ++ [step.event]) ∧
      (c.handle step).blocks = c.blocks ∧ (c.handle step).openBlock.isSome) ∨
    (¬ name :: outer <:+ replay [] (events ++ [step.event]) ∧
      (c.handle step).blocks = block.fragment :: c.blocks ∧ (c.handle step).openBlock = none) := by
  cases hfits with
  | opened opened attributes after =>
    refine .inl ⟨?_, rfl, ?_⟩
    · rw [replay_concat]
      exact hmirrors.outermost.suffix.trans (suffix_behind_opened _ _ _)
    · simp [Collector.handle, Collector.enter, hblock]
  | closed before closed =>
    have hsuffix := behind_closed_suffix (replay [] events) closed
    rw [← replay_concat] at hsuffix
    have hclose : ∀ depth, c.handle ⟨before, .closed closed, depth⟩ = c.close depth := fun _ ↦ rfl
    rw [hclose, blocks_close, openBlock_close, hblock, Option.filter_some, Option.filter_some,
      ← hmirrors.length_eq]
    generalize replay [] (events ++ [.closed closed]) = left at hsuffix ⊢
    by_cases hdepth : outer.length < left.length
    · have houtermost := hmirrors.outermost.of_suffix hsuffix hdepth
      exact .inl ⟨houtermost.suffix, by simp [Nat.not_le.2 hdepth], by simp [hdepth]⟩
    · refine .inr ⟨fun hopen ↦ hdepth hopen.length_le, ?_, by simp [hdepth]⟩
      simp [Nat.not_lt.1 hdepth]
  | text before characters after =>
    refine .inl ⟨?_, rfl, ?_⟩
    · rw [replay_concat]
      exact hmirrors.outermost.suffix
    · simp [Collector.handle, Collector.append, hblock]

/-- No block is emitted when none is open. -/
theorem blocks_handle_of_none (hblock : c.openBlock = none) (step : Step) :
    (c.handle step).blocks = c.blocks := by
  obtain ⟨before, event, after⟩ := step
  cases event with
  | opened => rfl
  | closed name => exact (blocks_close c after).trans (by simp [hblock])
  | text => rfl

/-! ### Runs -/

theorem mirrors_empty : empty.Mirrors [] [] := by
  constructor <;> simp [empty]

theorem mirrors_foldl {markup : Text} {steps : List Step} {r : Reader}
    (h : (Reader.ofMarkup markup).Run steps r) :
    (steps.foldl Collector.handle empty).Mirrors (steps.map Step.event)
      (replay [] (steps.map Step.event)) := by
  induction h with
  | start => exact mirrors_empty
  | step hrun hnext ih =>
    rw [List.foldl_append, List.map_append]
    exact ih.handle (hrun.replays.fits (Reader.takes_of_next? hnext))

/-- The collector behind a run is the one that the collection of the fragments goes on with. -/
theorem fragments_of_run {markup : Text} {steps : List Step} {r : Reader}
    (h : (Reader.ofMarkup markup).Run steps r) :
    fragments markup =
      (r.foldSteps Collector.handle (steps.foldl Collector.handle empty)).finish := by
  rw [fragments, collect, Reader.foldSteps_eq_foldl, h.steps_eq, List.foldl_append,
    ← Reader.foldSteps_eq_foldl]

/-- A block that is over with a step of a reader has lost its own element by then, and one that is
not over keeps it. -/
theorem emits_or_keeps_of_takes {event : Event} {block : OpenBlock} {name : Text}
    {outer : OpenElements} {r r' : Reader} (hreplays : r.Replays events)
    (htakes : r.Takes event r') (hblock : c.openBlock = some block)
    (hmirrors : block.Mirrors events (replay [] events) name outer) :
    let c' := c.handle ⟨r.depth, event, r'.depth⟩
    (c'.blocks = block.fragment :: c.blocks ∧ c'.openBlock = none ∧ r'.queued = [] ∧
      ¬ name :: outer <:+ r'.openElements) ∨
    (c'.blocks = c.blocks ∧ c'.openBlock.isSome ∧
      (r'.queued = [] → name :: outer <:+ r'.openElements)) := by
  have helements : r'.queued = [] → r'.openElements = replay [] (events ++ [event]) :=
    fun hnil ↦ by simpa [hnil] using (hreplays.of_takes htakes).openElements_eq
  rcases blocks_handle_of_some hblock (hreplays.fits htakes) hmirrors with
    ⟨hopen, hblocks, hsome⟩ | ⟨hgone, hblocks, hnone⟩
  · exact .inr ⟨hblocks, hsome, fun hnil ↦ helements hnil ▸ hopen⟩
  · have hnil : r'.queued = [] := by
      cases event with
      | closed closed => exact hreplays.queued_eq_nil_of_closed htakes
      | opened opened attributes => exact absurd hblocks.symm (List.cons_ne_self _ _)
      | text characters => exact absurd hblocks.symm (List.cons_ne_self _ _)
    exact .inl ⟨hblocks, hnone, hnil, helements hnil ▸ hgone⟩

/-- Wherever nothing is queued in the collection of the fragments of a page, a collector mirrors the
open elements of the reader. So a block is emitted by the step that takes its own element off the
stack, and by no other. -/
theorem mirrors_of_run {markup : Text} {steps : List Step} {r : Reader}
    (h : (Reader.ofMarkup markup).Run steps r) :
    let events := steps.map Step.event
    let c := steps.foldl Collector.handle empty
    fragments markup = (r.foldSteps Collector.handle c).finish ∧
    (r.queued = [] → c.Mirrors events r.openElements) ∧
    ∀ event r', r.next? = some (event, r') →
      let c' := c.handle ⟨r.depth, event, r'.depth⟩
      (c.openBlock = none → c'.blocks = c.blocks) ∧
      ∀ block ∈ c.openBlock, ∃ name outer,
        block.Mirrors events (replay [] events) name outer ∧
        ((c'.blocks = block.fragment :: c.blocks ∧ c'.openBlock = none ∧ r'.queued = [] ∧
            ¬ name :: outer <:+ r'.openElements) ∨
          (c'.blocks = c.blocks ∧ c'.openBlock.isSome ∧
            (r'.queued = [] → name :: outer <:+ r'.openElements))) := by
  have hreplays := h.replays
  have hmirrors := mirrors_foldl h
  refine ⟨fragments_of_run h, fun hnil ↦ ?_, fun event r' hnext ↦
    ⟨fun hnone ↦ blocks_handle_of_none hnone _, fun block hblock ↦ ?_⟩⟩
  · have helements := hreplays.openElements_eq
    rw [hnil, List.append_nil] at helements
    rwa [helements]
  · obtain ⟨name, outer, hblockMirrors⟩ := hmirrors.block_some block hblock
    exact ⟨name, outer, hblockMirrors,
      emits_or_keeps_of_takes hreplays (Reader.takes_of_next? hnext) hblock hblockMirrors⟩

/-- The end of an outer element takes an open paragraph with it. -/
theorem emits_of_outer_end :
    ∃ steps r r', (Reader.ofMarkup "<div><p>a<b></div>").Run steps r ∧
      (steps.foldl Collector.handle empty).openBlock = some ⟨.paragraph, 1, "a"⟩ ∧
      r.openElements = ["b".toList, "p".toList, "div".toList] ∧
      r.next? = some (.closed "div", r') ∧ r'.openElements = [] ∧
      ((steps.foldl Collector.handle empty).handle ⟨r.depth, .closed "div", r'.depth⟩).blocks =
        [.block .paragraph "a"] := by
  have hdiv : (Reader.ofMarkup "<div><p>a<b></div>").next? =
      some (.opened "div" [], ⟨"<p>a<b></div>", ["div".toList], []⟩) := by
    decide +kernel
  have hparagraph : Reader.next? ⟨"<p>a<b></div>", ["div".toList], []⟩ =
      some (.opened "p" [], ⟨"a<b></div>", ["p".toList, "div".toList], []⟩) := by
    decide +kernel
  have htext : Reader.next? ⟨"a<b></div>", ["p".toList, "div".toList], []⟩ =
      some (.text "a", ⟨"<b></div>", ["p".toList, "div".toList], []⟩) := by
    decide +kernel
  have hbold : Reader.next? ⟨"<b></div>", ["p".toList, "div".toList], []⟩ =
      some (.opened "b" [], ⟨"</div>", ["b".toList, "p".toList, "div".toList], []⟩) := by
    decide +kernel
  have hend : Reader.next? ⟨"</div>", ["b".toList, "p".toList, "div".toList], []⟩ =
      some (.closed "div", ⟨"", [], []⟩) := by
    decide +kernel
  have hrun := (((Reader.Run.start.step hdiv).step hparagraph).step htext).step hbold
  obtain ⟨-, -, hnext⟩ := mirrors_of_run hrun
  obtain ⟨-, hblock⟩ := hnext _ _ hend
  obtain ⟨name, outer, hmirrors, ⟨hblocks, -⟩ | ⟨-, -, hopen⟩⟩ := hblock ⟨.paragraph, 1, "a"⟩ rfl
  · exact ⟨_, _, _, hrun, rfl, rfl, hend, rfl, hblocks⟩
  · exact absurd (List.suffix_nil.1 (hopen rfl)) (List.cons_ne_nil name outer)

end Collector

end ApiReference.Page
