import ApiReference.Proofs.Markup.Encoding
import ApiReference.Proofs.Markup.ForestReading
import Mathlib.Data.List.SplitBy

/-!
# Lone brackets

A `<` is text unless a tag, a comment, a declaration or an instruction starts with it. The reader
still stops at each `<`, so that a text with such lone brackets is reported in several runs, and
each run is decoded by itself. Nothing is lost by this. A run starts where the one before it ends,
and as no reference has a `<` in it, none lies across a cut: the runs are decoded to what the text
is decoded to as a whole.

## Main definitions

* `HasLoneBrackets`: a text in which every `<` is lone.
* `bracketRuns`: a text cut in front of every `<`.

## Main results

* `Token.read?_cons`: a lone `<` is read as the start of a text.
* `Reader.steps_bracketRuns_append`: a reader reports the runs of a text one by one.
* `flatten_map_decodeReferences_bracketRuns`: the runs are decoded to what the text is decoded to.
-/

namespace ApiReference.Markup

open Text

variable {c : Char} {s rest : Text}

/-- Whether a text continues a `<` in front of it to a tag, a comment, a declaration or an
instruction. It does when it starts with an ASCII letter, with a slash and an ASCII letter, with an
exclamation mark or with a question mark. -/
def continuesBracket (s : Text) : Bool :=
  startsName s || (s.head? == some '/' && startsName s.tail) || s.head? == some '!' ||
    s.head? == some '?'

/-- A text in which every `<` is text. -/
def HasLoneBrackets (s : Text) : Prop :=
  ∀ t ∈ s.tails, t.head? = some '<' → continuesBracket t.tail = false

instance (s : Text) : Decidable (HasLoneBrackets s) := by
  unfold HasLoneBrackets
  infer_instance

/-- A text cut in front of every `<`. -/
def bracketRuns (s : Text) : List Text := s.splitBy fun _ d ↦ d != '<'

/-! ### Runs -/

@[simp] theorem flatten_bracketRuns (s : Text) : (bracketRuns s).flatten = s :=
  List.flatten_splitBy _ s

theorem nil_notMem_bracketRuns (s : Text) : [] ∉ bracketRuns s := List.nil_notMem_splitBy _ s

theorem stopsText_dropWhile (s : Text) : StopsText (s.dropWhile (· != '<')) := by
  intro d hd
  have hnot := List.head?_dropWhile_not (· != '<') s
  rw [Option.mem_def] at hd
  simpa [hd] using hnot

/-- The first run reaches to the next `<`. -/
theorem bracketRuns_cons (c : Char) (s : Text) :
    bracketRuns (c :: s) =
      (c :: s.takeWhile (· != '<')) :: bracketRuns (s.dropWhile (· != '<')) := by
  have hrun : ∀ d ∈ s.takeWhile (· != '<'), d != '<' := List.all_eq_true.1 List.all_takeWhile
  have hchain : (c :: s.takeWhile (· != '<')).IsChain fun _ d ↦ d != '<' :=
    (List.pairwise_cons.2 ⟨hrun, List.pairwise_of_forall_mem_list fun _ _ ↦ hrun⟩).isChain
  have hcut : ∀ a ∈ (c :: s.takeWhile (· != '<')).getLast?,
      ∀ d ∈ (s.dropWhile (· != '<')).head?, (d != '<') = false := by
    intro _ _ d hd
    rw [stopsText_dropWhile s d hd]
    rfl
  have hsplit : c :: s = (c :: s.takeWhile (· != '<')) ++ s.dropWhile (· != '<') := by
    rw [List.cons_append, List.takeWhile_append_dropWhile]
  rw [bracketRuns, hsplit, List.splitBy_append hcut, List.splitBy_of_isChain (by simp) hchain]
  simp [bracketRuns]

/-- A text can be gone through run by run. -/
theorem bracketRuns_induction {motive : Text → Prop} (nil : motive [])
    (cons : ∀ c s, motive (s.dropWhile (· != '<')) → motive (c :: s)) : ∀ s, motive s
  | [] => nil
  | c :: s => cons c s (bracketRuns_induction nil cons _)
termination_by s => s.length
decreasing_by exact Nat.lt_succ_of_le (List.dropWhile_suffix _).length_le

/-- The runs are decoded to what the text is decoded to, as no reference lies across a cut. -/
theorem flatten_map_decodeReferences_bracketRuns (s : Text) :
    ((bracketRuns s).map decodeReferences).flatten = decodeReferences s := by
  induction s using bracketRuns_induction with
  | nil => simp [bracketRuns, decodeReferences]
  | cons c s ih =>
    have hstart : ∀ d ∈ (s.dropWhile (· != '<')).head?, isReferenceChar d = false :=
      fun d hd ↦ by rw [stopsText_dropWhile s d hd]; rfl
    calc ((bracketRuns (c :: s)).map decodeReferences).flatten
        = decodeReferences (c :: s.takeWhile (· != '<')) ++
            decodeReferences (s.dropWhile (· != '<')) := by
          rw [bracketRuns_cons, List.map_cons, List.flatten_cons, ih]
      _ = decodeReferences (c :: s) := by
          rw [← decodeReferences_append hstart, List.cons_append, List.takeWhile_append_dropWhile]

/-! ### Reading -/

theorem HasLoneBrackets.of_suffix (h : HasLoneBrackets s) (hrest : rest <:+ s) :
    HasLoneBrackets rest :=
  fun t ht ↦ h t ((List.mem_tails _ _).2 (((List.mem_tails _ _).1 ht).trans hrest))

/-- What stands behind a text with lone brackets does not continue its last `<` either. -/
theorem HasLoneBrackets.continuesBracket_append (h : HasLoneBrackets ('<' :: s))
    (hrest : StopsText rest) : continuesBracket (s ++ rest) = false := by
  have hs : continuesBracket s = false := h ('<' :: s) ((List.mem_tails _ _).2 List.suffix_rfl) rfl
  have hname : startsName rest = false := by
    rcases rest with _ | ⟨d, rest⟩
    · rfl
    · rw [hrest d rfl]
      rfl
  -- No more than two characters behind the `<` matter, and what is behind the text has to do with
  -- them only when they are not both in it.
  rcases s with _ | ⟨d, _ | ⟨e, s⟩⟩
  · rcases rest with _ | ⟨d, rest⟩
    · rfl
    · rw [hrest d rfl]
      rfl
  · simp_all [continuesBracket, startsName]
  · exact hs

theorem behindIgnored?_cons (h : c = '<' → continuesBracket s = false) :
    behindIgnored? (c :: s) = none := by
  unfold behindIgnored?
  split <;> simp_all [continuesBracket]

/-- A first character that is no `<` or a lone one starts a text, which reaches to the next `<`. -/
theorem Token.read?_cons (h : c = '<' → continuesBracket s = false) :
    Token.read? (c :: s) =
      some (.text (decodeReferences (c :: s.takeWhile (· != '<'))), s.dropWhile (· != '<')) := by
  have hstart : ¬ (c = '<' ∧ startsName s) := by
    rintro ⟨hc, hs⟩
    simpa [continuesBracket, hs] using h hc
  have hend : ¬ (c = '<' ∧ s.head? = some '/' ∧ startsName s.tail) := by
    rintro ⟨hc, hslash, hs⟩
    simpa [continuesBracket, hslash, hs] using h hc
  rw [Token.read?_of_eq_none (behindIgnored?_cons h)]
  simp only [hstart, hend, if_false, readText]

/-- The first run of a text is read without what is behind the text. -/
theorem HasLoneBrackets.read?_cons_append (h : HasLoneBrackets (c :: s)) (hrest : StopsText rest) :
    Token.read? (c :: (s ++ rest)) =
      some (.text (decodeReferences (c :: s.takeWhile (· != '<'))),
        s.dropWhile (· != '<') ++ rest) := by
  have hlone : c = '<' → continuesBracket (s ++ rest) = false := by
    rintro rfl
    exact h.continuesBracket_append hrest
  have hstop : ∀ d ∈ rest.head?, (d != '<') = false := fun d hd ↦ by rw [hrest d hd]; rfl
  rw [Token.read?_cons hlone, takeWhile_append_of_stop s hstop, dropWhile_append_of_stop s hstop]

/-- A reader reports the runs of a text with lone brackets one by one, each of them decoded, and
goes on behind the text. -/
theorem Reader.steps_bracketRuns_append (h : HasLoneBrackets s) (hrest : StopsText rest)
    (elements : OpenElements) :
    steps ⟨s ++ rest, elements, []⟩ =
      (bracketRuns s).map
          (fun run ↦ ⟨elements.length, .text (decodeReferences run), elements.length⟩) ++
        steps ⟨rest, elements, []⟩ := by
  induction s using bracketRuns_induction with
  | nil => rfl
  | cons c s ih =>
    have hbehind : HasLoneBrackets (s.dropWhile (· != '<')) :=
      h.of_suffix ((List.dropWhile_suffix _).trans (List.suffix_cons c s))
    have hnext : next? ⟨c :: (s ++ rest), elements, []⟩ =
        some (.text (decodeReferences (c :: s.takeWhile (· != '<'))),
          ⟨s.dropWhile (· != '<') ++ rest, elements, []⟩) := by
      simp only [next?, h.read?_cons_append hrest]
    rw [List.cons_append, steps_of_next?_eq_some hnext, ih hbehind, bracketRuns_cons]
    rfl

/-- The events of a text with lone brackets. -/
theorem events_ofMarkup_of_hasLoneBrackets (h : HasLoneBrackets s) :
    (Reader.ofMarkup s).steps.map Step.event =
      (bracketRuns s).map fun run ↦ .text (decodeReferences run) := by
  have hsteps := Reader.steps_bracketRuns_append h stopsText_nil []
  rw [Reader.steps_nil, List.append_nil, List.append_nil] at hsteps
  rw [Reader.ofMarkup, hsteps, List.map_map]
  rfl

end ApiReference.Markup
