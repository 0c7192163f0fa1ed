import ApiReference.Proofs.Markup.Cursor

/-!
# Reading ends

A cursor is moved through markup turn by turn. Every turn is paid for by characters that are behind
the cursor, and none takes the cursor beyond the end of the markup, so there are no more turns than
characters. It follows that each loop ends, that the cursor gets from event to event as the reader
does, and that there are no more events than characters. All this holds of any markup.

## Main definitions

* `Turns`: a cursor gets from the start of the markup to another state in a number of turns.

## Main results

* `Turns.add_owed_le`: the turns and the debt of a cursor are paid for by the characters behind it.
* `Turns.exists_end_of_loop`: a loop ends.
* `Turns.exists_of_run`: a cursor gets wherever a reader gets.
* `reading_ends`: reading ends on any markup.
-/

namespace ApiReference.Markup

/-- A cursor gets from the start of the markup to another state in a number of turns, in which it
reports some steps. -/
inductive Turns (markup : Text) : Nat → List Step → Cursor → Prop
  | start : Turns markup 0 [] .start
  | goesOn {turns : Nat} {steps : List Step} {c c' : Cursor} (h : Turns markup turns steps c)
      (hturn : c.turn? markup = some (none, c')) : Turns markup (turns + 1) steps c'
  | reports {turns : Nat} {steps : List Step} {c c' : Cursor} {event : Event}
      (h : Turns markup turns steps c) (hturn : c.turn? markup = some (some event, c')) :
      Turns markup (turns + 1) (steps ++ [⟨c.depth, event, c'.depth⟩]) c'

namespace Turns

variable {markup : Text} {turns : Nat} {steps : List Step} {c : Cursor} {r : Reader}
  {event : Event}

/-- The turns and the debt are paid for by the characters behind the cursor, which never gets beyond
the end of the markup. -/
theorem add_owed_le (h : Turns markup turns steps c) :
    turns + c.owed ≤ c.position ∧ c.position ≤ markup.length := by
  induction h with
  | start => exact ⟨Nat.le_refl _, Nat.zero_le _⟩
  | goesOn _ hturn ih =>
    have htakes := Cursor.takes_of_turn? ih.2 hturn
    have hpaid := htakes.paid
    exact ⟨by omega, htakes.le_length⟩
  | reports _ hturn ih =>
    have htakes := Cursor.takes_of_turn? ih.2 hturn
    have hpaid := htakes.paid
    exact ⟨by omega, htakes.le_length⟩

theorem length_steps_le (h : Turns markup turns steps c) : steps.length ≤ turns := by
  induction h with
  | start => exact Nat.le_refl _
  | goesOn _ _ ih => exact Nat.le_succ_of_le ih
  | reports _ _ ih =>
    rw [List.length_append, List.length_singleton]
    exact Nat.succ_le_succ ih

/-- A loop ends, at the end of the markup or with an event. What is to be reported is the same as
before. -/
theorem exists_end_of_loop (h : Turns markup turns steps c) :
    ∃ turns' c', Turns markup turns' steps c' ∧ c'.depth = c.depth ∧
      c'.next? markup = c.next? markup ∧ ∀ c'', c'.turn? markup ≠ some (none, c'') := by
  induction hleft : markup.length - turns using Nat.strongRecOn generalizing turns c with
  | ind left ih =>
    by_cases hloop : ∃ c'', c.turn? markup = some (none, c'')
    · obtain ⟨c'', hturn⟩ := hloop
      have h'' := h.goesOn hturn
      have hpaid := h''.add_owed_le
      cases Cursor.takes_of_turn? h.add_owed_le.2 hturn with
      | goesOn _ helements hnext =>
        obtain ⟨turns', c', h', hdepth, hnext', hstop⟩ := ih _ (by omega) h'' rfl
        exact ⟨turns', c', h', hdepth.trans (congrArg List.length helements), hnext'.trans hnext,
          hstop⟩
    · exact ⟨turns, c, h, rfl, rfl, not_exists.1 hloop⟩

/-- The next event is reported after some turns. -/
theorem exists_of_next? (h : Turns markup turns steps c)
    (hnext : c.next? markup = some (event, r)) :
    ∃ turns' c', Turns markup turns' (steps ++ [⟨c.depth, event, r.depth⟩]) c' ∧
      c'.StandsFor markup r := by
  obtain ⟨turns', c', h', hdepth, hnext', hstop⟩ := h.exists_end_of_loop
  rw [hnext] at hnext'
  have hle := h'.add_owed_le.2
  cases hturn : c'.turn? markup with
  | none =>
    rw [Cursor.next?_eq_none hle hturn] at hnext'
    cases hnext'
  | some turn =>
    obtain ⟨event?, c''⟩ := turn
    cases Cursor.takes_of_turn? hle hturn with
    | goesOn => exact absurd hturn (hstop c'')
    | reports hstands hreport =>
      obtain ⟨rfl, rfl⟩ := Prod.mk.inj (Option.some.inj (hreport.symm.trans hnext'))
      have h'' := h'.reports hturn
      rw [hdepth, hstands.depth_eq] at h''
      exact ⟨_, c'', h'', hstands⟩

/-- A cursor gets wherever a reader gets, and reports the same on the way. -/
theorem exists_of_run (h : (Reader.ofMarkup markup).Run steps r) :
    ∃ turns c, Turns markup turns steps c ∧ c.StandsFor markup r := by
  induction h with
  | start => exact ⟨0, .start, .start, Cursor.standsFor_start markup⟩
  | step _ hnext ih =>
    obtain ⟨turns, c, h, hstands⟩ := ih
    rw [← hstands.depth_eq]
    exact h.exists_of_next? (hstands.next?_eq.trans hnext)

end Turns

/-- Reading ends on any markup, with no more events than there are characters. A cursor that is
moved turn by turn gets wherever the reader gets, and at last to the end of the markup. It never
gets beyond it, and behind it there are at least as many characters as it has made turns and has
events to report. A turn that does not move it forward ends its loop. -/
theorem reading_ends (markup : Text) :
    (Reader.ofMarkup markup).steps.length ≤ markup.length ∧
    (∃ turns last, Turns markup turns (Reader.ofMarkup markup).steps last ∧
      last.turn? markup = none ∧ last.position = markup.length) ∧
    (∀ steps r, (Reader.ofMarkup markup).Run steps r → ∃ turns c, Turns markup turns steps c ∧
      c.StandsFor markup r ∧ steps.length + r.queued.length ≤ c.position) ∧
    ∀ turns steps c, Turns markup turns steps c →
      c.position ≤ markup.length ∧ steps.length ≤ turns ∧ turns + c.owed ≤ c.position ∧
      ∀ event? c', c.turn? markup = some (event?, c') →
        c.position < c'.position ∨ event?.isSome ∧ c.phase ≠ .content [] := by
  obtain ⟨r, hrun, hnone⟩ := (Reader.ofMarkup markup).exists_run_steps
  obtain ⟨turns, c, h, hstands⟩ := Turns.exists_of_run hrun
  refine ⟨?_, ?_, fun steps r hrun ↦ ?_, fun turns steps c h ↦ ?_⟩
  · have hsteps := h.length_steps_le
    have hpaid := h.add_owed_le
    omega
  · obtain ⟨turns', last, hlast, -, hnext, hstop⟩ := h.exists_end_of_loop
    have hle := hlast.add_owed_le.2
    rw [hstands.next?_eq, hnone] at hnext
    have hend : last.turn? markup = none := by
      refine Option.eq_none_iff_forall_ne_some.2 fun turn hturn ↦ ?_
      obtain ⟨event?, c'⟩ := turn
      cases Cursor.takes_of_turn? hle hturn with
      | goesOn => exact hstop c' hturn
      | reports _ hreport => cases hreport.symm.trans hnext
    exact ⟨turns', last, hlast, hend, ((Cursor.turn?_eq_none_iff hle).1 hend).2⟩
  · obtain ⟨turns, c, h, hstands⟩ := Turns.exists_of_run hrun
    have hsteps := h.length_steps_le
    have hpaid := h.add_owed_le.1
    rw [hstands.owed_eq] at hpaid
    exact ⟨turns, c, h, hstands, by omega⟩
  · obtain ⟨hpaid, hle⟩ := h.add_owed_le
    exact ⟨hle, h.length_steps_le, hpaid,
      fun event? c' hturn ↦ (Cursor.takes_of_turn? hle hturn).lt_or_isSome⟩

/-- An equals sign without a name and a slash in the middle of a tag are passed over turn by turn,
and the content of a script that is never closed is paid for when it is queued. -/
theorem reading_ends_in_unclosed_script :
    let queueing : Cursor := ⟨13, ["script".toList], .content [.text "a"]⟩
    Turns "<script =/ >a" 4 [⟨0, .opened "script" [⟨"=", ""⟩], 1⟩] queueing ∧
      queueing.turn? "<script =/ >a" =
        some (some (.text "a"), ⟨13, ["script".toList], .content []⟩) ∧
      queueing.position ≤ "<script =/ >a".toList.length ∧
      4 + queueing.owed ≤ queueing.position := by
  have hname : Cursor.turn? "<script =/ >a" .start =
      some (none, ⟨7, [], .startTag "script" []⟩) := by
    decide +kernel
  have hequals : Cursor.turn? "<script =/ >a" ⟨7, [], .startTag "script" []⟩ =
      some (none, ⟨9, [], .startTag "script" [⟨"=", ""⟩]⟩) := by
    decide +kernel
  have hslash : Cursor.turn? "<script =/ >a" ⟨9, [], .startTag "script" [⟨"=", ""⟩]⟩ =
      some (none, ⟨10, [], .startTag "script" [⟨"=", ""⟩]⟩) := by
    decide +kernel
  have hclose : Cursor.turn? "<script =/ >a" ⟨10, [], .startTag "script" [⟨"=", ""⟩]⟩ =
      some (some (.opened "script" [⟨"=", ""⟩]), ⟨13, ["script".toList], .content [.text "a"]⟩) := by
    decide +kernel
  have hrun := (((Turns.start.goesOn hname).goesOn hequals).goesOn hslash).reports hclose
  obtain ⟨hle, -, hpaid, -⟩ := (reading_ends "<script =/ >a").2.2.2 _ _ _ hrun
  exact ⟨hrun, rfl, hle, hpaid⟩

end ApiReference.Markup
