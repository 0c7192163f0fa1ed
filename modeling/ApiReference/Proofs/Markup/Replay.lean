import ApiReference.Markup.Step

/-!
# Replaying the events of a reader

The open elements of a reader can be told from the events that it has reported: an opening puts its
element on the stack, and an end cuts the stack at the innermost element of its name. A reader
changes its stack when it decides on an event and reports the event later, so that what is queued
has to be replayed too. Never more is queued than the content of an element and one end behind it.
This holds of any markup, however odd it is.

## Main definitions

* `OpenElements.behind`, `OpenElements.replay`: the open elements behind some events.
* `Reader.Run`: a reader gets from one state to another by reporting some steps.
* `Reader.Takes`: what a reader can do when it reports an event.
* `Reader.Replays`: the open elements are those behind the events reported and queued.

## Main results

* `Reader.takes_of_next?`: a reader does nothing else.
* `Reader.Run.steps_eq`, `Reader.exists_run_steps`: a run is a beginning of the steps of its reader,
  and there is one with all of them.
* `Reader.Replays.of_takes`, `Reader.Run.replays`: every event, and so every run, keeps the open
  elements with the replay.
* `Reader.Run.openElements_eq_replay`: the open elements and the queue of a reader.
-/

namespace ApiReference.Markup

/-! ### Open elements from events -/

namespace OpenElements

/-- What is around the innermost open element of a name. -/
def around? (name : Text) : OpenElements → Option OpenElements
  | [] => none
  | inner :: outer => if inner = name then some outer else around? name outer

/-- The open elements behind an event. The end of an element that is not open changes nothing. -/
def behind (elements : OpenElements) : Event → OpenElements
  | .opened name _ => if isVoid name then elements else name :: elements
  | .closed name => (around? name elements).getD elements
  | .text _ => elements

/-- The open elements behind some events. -/
def replay (elements : OpenElements) (events : List Event) : OpenElements :=
  events.foldl behind elements

variable {elements : OpenElements} {name : Text}

@[simp] theorem replay_nil (elements : OpenElements) : elements.replay [] = elements := rfl

@[simp] theorem replay_cons (elements : OpenElements) (event : Event) (events : List Event) :
    elements.replay (event :: events) = (elements.behind event).replay events := rfl

@[simp] theorem replay_append (elements : OpenElements) (events events' : List Event) :
    elements.replay (events ++ events') = (elements.replay events).replay events' :=
  List.foldl_append

theorem replay_concat (elements : OpenElements) (events : List Event) (event : Event) :
    elements.replay (events ++ [event]) = (elements.replay events).behind event := by
  simp

@[simp] theorem behind_text (elements : OpenElements) (characters : Text) :
    elements.behind (.text characters) = elements := rfl

theorem around?_eq_tail? (name : Text) (elements : OpenElements) :
    around? name elements = (elements.dropWhile (· != name)).tail? := by
  induction elements with
  | nil => rfl
  | cons inner outer ih => by_cases h : inner = name <;> simp [around?, h, ih]

theorem leave_eq_behind (name : Text) (elements : OpenElements) :
    elements.leave name = elements.behind (.closed name) := by
  rw [behind, around?_eq_tail?, leave]
  cases elements.dropWhile (· != name) <;> rfl

/-- An end cuts the stack at the innermost element of its name. -/
theorem behind_closed_append {inner : OpenElements} (h : name ∉ inner) (outer : OpenElements) :
    behind (inner ++ name :: outer) (.closed name) = outer := by
  have haround : around? name (inner ++ name :: outer) = some outer := by
    induction inner with
    | nil => exact if_pos rfl
    | cons first inner ih =>
      obtain ⟨hfirst, hinner⟩ := not_or.1 (mt List.mem_cons.2 h)
      exact (if_neg (Ne.symm hfirst)).trans (ih hinner)
  rw [behind, haround, Option.getD_some]

/-- No void element is ever open. -/
theorem not_isVoid_of_mem_replay {events : List Event}
    (h : ∀ name ∈ elements, isVoid name = false) :
    ∀ name ∈ elements.replay events, isVoid name = false := by
  induction events generalizing elements with
  | nil => exact h
  | cons event events ih =>
    refine ih fun name hname ↦ ?_
    cases event with
    | opened opened attributes =>
      rw [behind] at hname
      split at hname
      · exact h name hname
      · rename_i hopened
        rcases List.mem_cons.1 hname with rfl | hname
        · exact Bool.eq_false_iff.2 hopened
        · exact h name hname
    | closed closed =>
      rw [← leave_eq_behind] at hname
      exact h name ((leave_suffix closed elements).mem hname)
    | text characters => exact h name hname

end OpenElements

/-! ### Runs of a reader -/

namespace Reader

/-- A reader gets to another state by reporting some steps. -/
inductive Run (start : Reader) : List Step → Reader → Prop
  | start : Run start [] start
  | step {steps : List Step} {r r' : Reader} {event : Event} (h : Run start steps r)
      (hnext : r.next? = some (event, r')) :
      Run start (steps ++ [⟨r.depth, event, r'.depth⟩]) r'

/-- The steps of a run are reported first, and then those of the reader that it leads to. -/
theorem Run.steps_eq {start r : Reader} {steps : List Step} (h : start.Run steps r) :
    start.steps = steps ++ r.steps := by
  induction h with
  | start => rfl
  | step _ hnext ih =>
    rw [ih, steps_of_next?_eq_some hnext, List.append_assoc, List.singleton_append]

/-- Queued events are reported without a change of the depth. -/
theorem Run.queued {start : Reader} {steps : List Step} {s : Text} {elements : OpenElements}
    {queued : List Event} (h : start.Run steps ⟨s, elements, queued⟩) :
    start.Run (steps ++ queued.map (⟨elements.length, ·, elements.length⟩)) ⟨s, elements, []⟩ := by
  induction queued generalizing steps with
  | nil => simpa using h
  | cons event queued ih =>
    have hstep := ih (h.step rfl)
    rwa [List.append_assoc] at hstep

/-- A run goes on until no event is left, and then it has the steps of its reader. -/
theorem exists_run_steps (start : Reader) : ∃ r, start.Run start.steps r ∧ r.next? = none := by
  have hrun (steps : List Step) (r : Reader) (h : start.Run steps r) :
      ∃ last, start.Run (steps ++ r.steps) last ∧ last.next? = none := by
    induction hweight : r.weight using Nat.strongRecOn generalizing steps r with
    | ind n ih =>
      cases hnext : r.next? with
      | none =>
        rw [steps_of_next?_eq_none hnext, List.append_nil]
        exact ⟨r, h, hnext⟩
      | some next =>
        obtain ⟨event, r'⟩ := next
        rw [steps_of_next?_eq_some hnext, ← List.singleton_append, ← List.append_assoc]
        exact ih _ (hweight ▸ weight_lt_of_next? hnext) _ r' (h.step hnext) rfl
  exact hrun [] start .start

/-! ### One event -/

/-- What can be queued. -/
inductive IsQueue : List Event → Prop
  | nil : IsQueue []
  | content (characters : Text) : IsQueue [.text characters]
  | closing (name : Text) : IsQueue [.closed name]
  | contentAndClosing (characters name : Text) : IsQueue [.text characters, .closed name]

/-- What a reader can do when it reports an event. The events behind an opening are queued, and the
open elements are already those behind them. -/
inductive Takes : Reader → Event → Reader → Prop
  | queued (s : Text) (elements : OpenElements) (event : Event) (queued : List Event) :
      Takes ⟨s, elements, event :: queued⟩ event ⟨s, elements, queued⟩
  | text (s s' : Text) (elements : OpenElements) (characters : Text) :
      Takes ⟨s, elements, []⟩ (.text characters) ⟨s', elements, []⟩
  | closed (s s' : Text) (elements : OpenElements) (name : Text) :
      Takes ⟨s, elements, []⟩ (.closed name) ⟨s', elements.behind (.closed name), []⟩
  | opened (s s' : Text) (elements : OpenElements) (name : Text) (attributes : List Attribute)
      {queued : List Event} (hqueued : IsQueue queued) :
      Takes ⟨s, elements, []⟩ (.opened name attributes)
        ⟨s', elements.replay (.opened name attributes :: queued), queued⟩

theorem exists_afterStartTag_eq (tag : StartTag) (s : Text) (elements : OpenElements) :
    ∃ s' queued, IsQueue queued ∧
      afterStartTag tag s elements = ⟨s', (elements.enter tag.name).replay queued, queued⟩ := by
  simp only [afterStartTag]
  split
  · exact ⟨s, _, .closing tag.name, by rw [OpenElements.leave_eq_behind]; rfl⟩
  · split
    · generalize readRawText tag.name s = raw
      obtain ⟨content, behind⟩ := raw
      cases behind with
      | nil =>
        cases content with
        | nil => exact ⟨[], _, .nil, rfl⟩
        | cons c content => exact ⟨[], _, .content (c :: content), rfl⟩
      | cons d behind =>
        simp only [List.isEmpty_cons, Bool.false_eq_true, if_false, afterEndTag,
          OpenElements.leave_eq_behind]
        cases content with
        | nil => exact ⟨_, _, .closing _, rfl⟩
        | cons c content => exact ⟨_, _, .contentAndClosing (c :: content) _, rfl⟩
    · exact ⟨s, _, .nil, rfl⟩

/-- A reader does nothing else when it reports an event. -/
theorem takes_of_next? {r r' : Reader} {event : Event} (h : r.next? = some (event, r')) :
    r.Takes event r' := by
  obtain ⟨s, elements, queued⟩ := r
  cases queued with
  | cons first queued =>
    obtain ⟨rfl, rfl⟩ := Prod.mk.inj (Option.some.inj h)
    exact .queued s elements first queued
  | nil =>
    simp only [next?] at h
    split at h
    · simp at h
    · obtain ⟨rfl, rfl⟩ := Prod.mk.inj (Option.some.inj h)
      exact .text ..
    · obtain ⟨rfl, rfl⟩ := Prod.mk.inj (Option.some.inj h)
      rw [OpenElements.leave_eq_behind]
      exact .closed ..
    · rename_i tag s' _
      obtain ⟨rfl, rfl⟩ := Prod.mk.inj (Option.some.inj h)
      obtain ⟨s'', queued, hqueued, heq⟩ := exists_afterStartTag_eq tag s' elements
      rw [heq]
      exact .opened _ _ _ _ _ hqueued

/-! ### Replaying -/

/-- The open elements of a reader that has reported some events are those behind these events and
the queued ones. -/
structure Replays (events : List Event) (r : Reader) : Prop where
  openElements_eq : r.openElements = OpenElements.replay [] (events ++ r.queued)
  isQueue : IsQueue r.queued

theorem IsQueue.tail {event : Event} {queued : List Event} (h : IsQueue (event :: queued)) :
    IsQueue queued := by
  cases h with
  | content => exact .nil
  | closing => exact .nil
  | contentAndClosing _ name => exact .closing name

theorem IsQueue.length_le {queued : List Event} (h : IsQueue queued) : queued.length ≤ 2 := by
  cases h <;> simp

theorem replays_ofMarkup (markup : Text) : (ofMarkup markup).Replays [] := ⟨rfl, .nil⟩

/-- Every event keeps the open elements with the replay. -/
theorem Replays.of_takes {events : List Event} {event : Event} {r r' : Reader}
    (h : r.Replays events) (htakes : r.Takes event r') : r'.Replays (events ++ [event]) := by
  obtain ⟨helements, hqueue⟩ := h
  cases htakes with
  | queued s elements event queued =>
    refine ⟨?_, hqueue.tail⟩
    rw [List.append_assoc]
    exact helements
  | text =>
    rw [List.append_nil] at helements
    exact ⟨by simp [← helements], .nil⟩
  | closed =>
    rw [List.append_nil] at helements
    exact ⟨by simp [← helements], .nil⟩
  | opened _ _ _ _ _ hqueued =>
    rw [List.append_nil] at helements
    exact ⟨by simp [← helements], hqueued⟩

/-- The open elements and the queue behind any run. -/
theorem Run.replays {markup : Text} {steps : List Step} {r : Reader}
    (h : (ofMarkup markup).Run steps r) : r.Replays (steps.map Step.event) := by
  induction h with
  | start => exact replays_ofMarkup markup
  | step _ hnext ih =>
    rw [List.map_append]
    exact ih.of_takes (takes_of_next? hnext)

/-- The open elements of a reader are those behind the events that it has reported and queued, of
which there are at most two, and no void element is among them. When nothing is queued the reported
events alone tell the open elements, and so the depth. -/
theorem Run.openElements_eq_replay {markup : Text} {steps : List Step} {r : Reader}
    (h : (ofMarkup markup).Run steps r) :
    (r.queued = [] → r.openElements = OpenElements.replay [] (steps.map Step.event) ∧
      r.depth = (OpenElements.replay [] (steps.map Step.event)).length) ∧
    r.openElements = OpenElements.replay [] (steps.map Step.event ++ r.queued) ∧
    r.queued.length ≤ 2 ∧ ∀ name ∈ r.openElements, isVoid name = false := by
  obtain ⟨helements, hqueue⟩ := h.replays
  refine ⟨fun hnil ↦ ?_, helements, hqueue.length_le, ?_⟩
  · rw [hnil, List.append_nil] at helements
    exact ⟨helements, congrArg List.length helements⟩
  · rw [helements]
    exact OpenElements.not_isVoid_of_mem_replay fun _ hname ↦ absurd hname List.not_mem_nil

/-- The end tag behind the content of a raw-text element closes another element here. -/
theorem openElements_of_script :
    ∃ steps r, (ofMarkup "<i><script-x><br><script>a</script-x>").Run steps r ∧ r.queued = [] ∧
      steps.map Step.event =
        [.opened "i" [], .opened "script-x" [], .opened "br" [], .opened "script" [], .text "a",
          .closed "script-x"] ∧
      r.openElements = OpenElements.replay [] (steps.map Step.event) ∧
      r.openElements = ["i".toList] := by
  have hitalic : (ofMarkup "<i><script-x><br><script>a</script-x>").next? =
      some (.opened "i" [], ⟨"<script-x><br><script>a</script-x>", ["i".toList], []⟩) := by
    decide +kernel
  have hcustom : next? ⟨"<script-x><br><script>a</script-x>", ["i".toList], []⟩ =
      some (.opened "script-x" [],
        ⟨"<br><script>a</script-x>", ["script-x".toList, "i".toList], []⟩) := by
    decide +kernel
  have hbreak : next? ⟨"<br><script>a</script-x>", ["script-x".toList, "i".toList], []⟩ =
      some (.opened "br" [], ⟨"<script>a</script-x>", ["script-x".toList, "i".toList], []⟩) := by
    decide +kernel
  have hscript : next? ⟨"<script>a</script-x>", ["script-x".toList, "i".toList], []⟩ =
      some (.opened "script" [], ⟨"", ["i".toList], [.text "a", .closed "script-x"]⟩) := by
    decide +kernel
  have hrun := (((((Run.start.step hitalic).step hcustom).step hbreak).step hscript).step rfl).step
    rfl
  exact ⟨_, _, hrun, rfl, rfl, (hrun.openElements_eq_replay.1 rfl).1, rfl⟩

end Reader

end ApiReference.Markup
