import ApiReference.Markup.Reader

/-!
# Steps of a reader

A reader is followed to the end of its markup step by step. A step is an event with the depth of the
reader before and after it.

## Main definitions

* `Step`, `Reader.steps`: the steps of a reader.
* `Reader.foldSteps`: a fold over the steps.

## Main results

* `Reader.steps_of_next?_eq_some`: the steps are the next step and the steps behind it.
* `Reader.foldSteps_eq_foldl`: the fold goes over the steps.
-/

namespace ApiReference.Markup

/-- An event with the depth of the reader before and after it. -/
structure Step where
  before : Nat
  event : Event
  after : Nat
deriving DecidableEq, Repr

namespace Reader

/-- A fold over the steps of a reader, from the first to the last. -/
def foldSteps {β : Type} (f : β → Step → β) (b : β) (r : Reader) : β :=
  match _h : r.next? with
  | none => b
  | some (event, r') => foldSteps f (f b ⟨r.depth, event, r'.depth⟩) r'
termination_by r.weight
decreasing_by exact weight_lt_of_next? _h

/-- The steps of a reader, from the first to the last. -/
def steps (r : Reader) : List Step := (r.foldSteps (fun done step ↦ step :: done) []).reverse

theorem foldSteps_of_next?_eq_none {β : Type} {f : β → Step → β} {b : β} {r : Reader}
    (h : r.next? = none) : r.foldSteps f b = b := by
  rw [foldSteps]
  split <;> simp_all

theorem foldSteps_of_next?_eq_some {β : Type} {f : β → Step → β} {b : β} {r r' : Reader}
    {event : Event} (h : r.next? = some (event, r')) :
    r.foldSteps f b = r'.foldSteps f (f b ⟨r.depth, event, r'.depth⟩) := by
  rw [foldSteps]
  split <;> simp_all

private theorem foldSteps_cons_eq (r : Reader) (done : List Step) :
    r.foldSteps (fun done step ↦ step :: done) done = r.steps.reverse ++ done := by
  unfold steps
  rw [List.reverse_reverse]
  induction hweight : r.weight using Nat.strongRecOn generalizing r done with
  | ind n ih =>
    cases h : r.next? with
    | none => simp [foldSteps_of_next?_eq_none h]
    | some next =>
      obtain ⟨event, r'⟩ := next
      have hlt := weight_lt_of_next? h
      rw [foldSteps_of_next?_eq_some h, foldSteps_of_next?_eq_some h, ih _ (hweight ▸ hlt) _ _ rfl,
        ih _ (hweight ▸ hlt) _ [_] rfl]
      simp

/-- A reader without a next event has no steps. -/
theorem steps_of_next?_eq_none {r : Reader} (h : r.next? = none) : r.steps = [] := by
  simp [steps, foldSteps_of_next?_eq_none h]

/-- The steps of a reader are its next step and the steps behind it. -/
theorem steps_of_next?_eq_some {r r' : Reader} {event : Event} (h : r.next? = some (event, r')) :
    r.steps = ⟨r.depth, event, r'.depth⟩ :: r'.steps := by
  rw [steps, foldSteps_of_next?_eq_some h, foldSteps_cons_eq]
  simp

/-- The fold goes over the steps. -/
theorem foldSteps_eq_foldl {β : Type} (f : β → Step → β) (b : β) (r : Reader) :
    r.foldSteps f b = r.steps.foldl f b := by
  induction hweight : r.weight using Nat.strongRecOn generalizing r b with
  | ind n ih =>
    cases h : r.next? with
    | none => simp [foldSteps_of_next?_eq_none h, steps_of_next?_eq_none h]
    | some next =>
      obtain ⟨event, r'⟩ := next
      rw [foldSteps_of_next?_eq_some h, steps_of_next?_eq_some h, List.foldl_cons,
        ih _ (hweight ▸ weight_lt_of_next? h) _ _ rfl]

end Reader

end ApiReference.Markup
