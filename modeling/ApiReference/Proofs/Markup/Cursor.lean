import ApiReference.Proofs.Markup.Position
import ApiReference.Proofs.Markup.Replay

/-!
# Reading by turns

A reader has two loops. One looks for the next token and passes over comments and declarations, the
other goes through the attributes of a start tag. Here both are taken apart into their turns. A
cursor is at a position of the markup, and a turn moves it on, reports an event or does both. That
the turns come to an end and stay within the markup is not built into them.

A turn that reports an event may leave the cursor where it is, but then the event has been decided
before: it was queued, or its start tag was begun. The cursor owes these events. In every turn the
position gains more than the debt does.

## Main definitions

* `Phase`, `Cursor`: where a reader is between two turns.
* `Cursor.turn?`: one turn of a loop.
* `Cursor.owed`: the number of events that are decided and not yet reported.
* `Cursor.StandsFor`: the cursor is where a reader is.
* `Cursor.next?`: the event that is to be reported next.
* `Cursor.Takes`: what a turn can do.

## Main results

* `Cursor.takes_of_turn?`: a turn of a cursor within the markup does nothing else.
* `Cursor.Takes.lt_or_isSome`: a loop that goes on has moved the cursor.
* `Cursor.turn?_eq_none_iff`: where the turns end.
-/

namespace ApiReference.Markup

open Text

/-- Where a reader is between two turns of its loops. -/
inductive Phase where
  /-- Between tokens, with some events queued. -/
  | content (queued : List Event)
  /-- In a start tag, whose name and first attributes have been read. -/
  | startTag (name : Text) (attributes : List Attribute)
deriving DecidableEq, Repr

/-- A reader at a position of its markup. -/
structure Cursor where
  position : Nat
  openElements : OpenElements
  phase : Phase
deriving DecidableEq, Repr

namespace Cursor

/-- The cursor at the start of the markup. -/
def start : Cursor := ⟨0, [], .content []⟩

/-- The number of open elements. -/
def depth (c : Cursor) : Nat := c.openElements.length

/-- The number of events that are decided and not yet reported: those that are queued, or the
opening of the element whose start tag is read. -/
def owed (c : Cursor) : Nat :=
  match c.phase with
  | .content queued => queued.length
  | .startTag _ _ => 1

/-- The cursor behind a start tag, once the opening of the element has been reported. -/
def behindStartTag (markup : Text) (tag : StartTag) (position : Nat) (elements : OpenElements) :
    Cursor :=
  let inside := elements.enter tag.name
  if tag.selfClosing && !isVoid tag.name then
    ⟨position, inside.leave tag.name, .content [.closed tag.name]⟩
  else if isRawText tag.name then
    let content := (readRawText tag.name (markup.drop position)).1
    let contentEvents := if content.isEmpty then [] else [.text content]
    let behind := position + content.length
    if behind < markup.length then
      let name := (readEndTag (markup.drop (behind + 2))).1
      ⟨endOfEndTag markup behind, inside.leave name, .content (contentEvents ++ [.closed name])⟩
    else ⟨behind, inside, .content contentEvents⟩
  else ⟨position, inside, .content []⟩

/-- A turn of the loop that looks for the next token. It ends the loop with an event, ends it at the
end of the markup, goes on behind what is ignored, or begins a start tag. -/
def contentTurn? (markup : Text) (position : Nat) (elements : OpenElements) :
    Option (Option Event × Cursor) :=
  match endOfIgnored? markup position with
  | some behind => some (none, ⟨behind, elements, .content []⟩)
  | none =>
    match markup.drop position with
    | [] => none
    | first :: rest =>
      if first = '<' ∧ startsName rest then
        let name := asciiLower (rest.takeWhile isNameChar)
        some (none, ⟨endOfRun isNameChar markup (position + 1), elements, .startTag name []⟩)
      else if first = '<' ∧ rest.head? = some '/' ∧ startsName rest.tail then
        let name := (readEndTag rest.tail).1
        some (some (.closed name),
          ⟨endOfEndTag markup position, elements.leave name, .content []⟩)
      else
        some (some (.text (readText first rest).1),
          ⟨endOfText markup position, elements, .content []⟩)

/-- A turn of the loop that goes through the attributes of a start tag. It ends the loop with the
opening of the element, or goes on behind a slash or an attribute. -/
def startTagTurn (markup : Text) (position : Nat) (elements : OpenElements) (name : Text)
    (attributes : List Attribute) : Option Event × Cursor :=
  let start := endOfRun Unicode.isBlank markup position
  let finish (selfClosing : Bool) (behind : Nat) : Option Event × Cursor :=
    (some (.opened name attributes),
      behindStartTag markup ⟨name, attributes, selfClosing⟩ behind elements)
  match markup.drop start with
  | [] => finish false start
  | '>' :: _ => finish false (start + 1)
  | '/' :: '>' :: _ => finish true (start + 2)
  | '/' :: _ => (none, ⟨start + 1, elements, .startTag name attributes⟩)
  | first :: rest =>
    (none, ⟨endOfAttribute first markup start, elements,
      .startTag name (attributes ++ [(readAttribute first rest).1])⟩)

/-- A turn of a cursor: what it reports, if anything, and where it gets. There is none at the end of
the markup. -/
def turn? (markup : Text) (c : Cursor) : Option (Option Event × Cursor) :=
  match c.phase with
  | .content (event :: queued) => some (some event, { c with phase := .content queued })
  | .content [] => contentTurn? markup c.position c.openElements
  | .startTag name attributes =>
    some (startTagTurn markup c.position c.openElements name attributes)

/-! ### Cursors and readers -/

/-- A cursor between tokens is where a reader is. -/
structure StandsFor (markup : Text) (c : Cursor) (r : Reader) : Prop where
  standsAt : StandsAt markup c.position r.rest
  openElements_eq : c.openElements = r.openElements
  phase_eq : c.phase = .content r.queued

/-- The next event that is to be reported from a cursor on, and the reader behind it. -/
def next? (markup : Text) (c : Cursor) : Option (Event × Reader) :=
  match c.phase with
  | .content queued => Reader.next? ⟨markup.drop c.position, c.openElements, queued⟩
  | .startTag name attributes =>
    let (more, selfClosing, rest) := readAttributes (markup.drop c.position)
    some (.opened name (attributes ++ more),
      Reader.afterStartTag ⟨name, attributes ++ more, selfClosing⟩ rest c.openElements)

variable {markup s rest name : Text} {position behind : Nat} {elements : OpenElements}
  {attributes : List Attribute} {selfClosing : Bool} {tag : StartTag} {c c' : Cursor} {r r' : Reader}
  {event : Event} {event? : Option Event}

theorem standsFor_start (markup : Text) : start.StandsFor markup (Reader.ofMarkup markup) :=
  ⟨.ofMarkup markup, rfl, rfl⟩

theorem StandsFor.next?_eq (h : c.StandsFor markup r) : c.next? markup = r.next? := by
  rw [next?, h.phase_eq, h.standsAt.drop_eq, h.openElements_eq]

theorem StandsFor.depth_eq (h : c.StandsFor markup r) : c.depth = r.depth :=
  congrArg List.length h.openElements_eq

theorem StandsFor.owed_eq (h : c.StandsFor markup r) : c.owed = r.queued.length := by
  rw [owed, h.phase_eq]

/-- A reader has as much to do as its cursor has characters and events to go. -/
theorem StandsFor.position_add_weight (h : c.StandsFor markup r) :
    c.position + r.weight = markup.length + c.owed := by
  rw [Reader.weight, h.owed_eq, ← h.standsAt.add_length_eq]
  omega

theorem standsFor_behindStartTag (h : StandsAt markup position s) (tag : StartTag)
    (elements : OpenElements) :
    (behindStartTag markup tag position elements).StandsFor markup
      (Reader.afterStartTag tag s elements) := by
  simp only [behindStartTag, Reader.afterStartTag, h.drop_eq]
  split
  · exact ⟨h, rfl, rfl⟩
  split
  · have hbehind : StandsAt markup (position + (readRawText tag.name s).1.length)
        (readRawText tag.name s).2 := by
      refine StandsAt.add_length ?_
      rwa [readRawText_append]
    have hlength := hbehind.add_length_eq
    by_cases hnil : (readRawText tag.name s).2 = []
    · rw [hnil] at hbehind hlength
      have hend : ¬ position + (readRawText tag.name s).1.length < markup.length := by
        simp only [List.length_nil] at hlength
        omega
      simp only [hend, if_false, hnil, List.isEmpty_nil, if_true]
      exact ⟨hbehind, rfl, rfl⟩
    · -- The two characters that are skipped are there.
      obtain ⟨t, ht⟩ := exists_eq_of_readRawText_ne_nil hnil
      rw [ht] at hbehind hlength
      have hend : position + (readRawText tag.name s).1.length < markup.length := by
        simp only [List.length_cons] at hlength
        omega
      simp only [hend, if_true, ht, List.isEmpty_cons, Bool.false_eq_true, if_false,
        hbehind.add_one.add_one.drop_eq, List.drop_succ_cons, List.drop_zero]
      exact ⟨hbehind.endOfEndTag, rfl, rfl⟩
  · exact ⟨h, rfl, rfl⟩

/-! ### One turn -/

/-- What a turn can do. It reports nothing, and what is to be reported is the same from where it
gets, or it reports what was to be reported next. In both cases the position gains more than the
debt, which does not become smaller without a report. -/
inductive Takes (markup : Text) (c : Cursor) : Option Event → Cursor → Prop
  | goesOn {c' : Cursor} (hle : c'.position ≤ markup.length)
      (helements : c'.openElements = c.openElements) (hnext : c'.next? markup = c.next? markup)
      (howed : c.owed ≤ c'.owed) (hpaid : c.position + c'.owed < c'.position + c.owed) :
      Takes markup c none c'
  | reports {event : Event} {c' : Cursor} {r : Reader} (hstands : c'.StandsFor markup r)
      (hnext : c.next? markup = some (event, r))
      (hpaid : c.position + c'.owed < c'.position + c.owed) :
      Takes markup c (some event) c'

theorem Takes.le_length (h : c.Takes markup event? c') : c'.position ≤ markup.length := by
  cases h with
  | goesOn hle => exact hle
  | reports hstands => exact hstands.standsAt.le_length

theorem Takes.paid (h : c.Takes markup event? c') :
    c.position + c'.owed < c'.position + c.owed := by
  cases h with
  | goesOn _ _ _ _ hpaid => exact hpaid
  | reports _ _ hpaid => exact hpaid

/-- A loop that goes on has moved the cursor, and so has every turn between tokens with nothing
queued. -/
theorem Takes.lt_or_isSome (h : c.Takes markup event? c') :
    c.position < c'.position ∨ event?.isSome ∧ c.phase ≠ .content [] := by
  have hpaid := h.paid
  cases h with
  | goesOn _ _ _ howed => exact .inl (by omega)
  | reports =>
    by_cases hphase : c.phase = .content []
    · have howed : c.owed = 0 := by simp only [owed, hphase, List.length_nil]
      exact .inl (by omega)
    · exact .inr ⟨rfl, hphase⟩

/-- A reader that reports an event has less to do than before, and so the event is paid for. -/
theorem StandsFor.takes (h : c.StandsFor markup r) (hnext : r.next? = some (event, r'))
    (h' : c'.StandsFor markup r') : c.Takes markup (some event) c' := by
  refine .reports h' (h.next?_eq.trans hnext) ?_
  have hweight := Reader.weight_lt_of_next? hnext
  have hposition := h.position_add_weight
  have hposition' := h'.position_add_weight
  omega

/-! ### Turns between tokens -/

theorem takes_ignored (hs : StandsAt markup position s) (hbehind : StandsAt markup behind rest)
    (hignored : behindIgnored? s = some rest) (elements : OpenElements) :
    Takes markup ⟨position, elements, .content []⟩ none ⟨behind, elements, .content []⟩ := by
  have hlength := length_lt_of_behindIgnored? hignored
  have hposition := hs.add_length_eq
  have hposition' := hbehind.add_length_eq
  refine .goesOn hbehind.le_length rfl ?_ (Nat.le_refl _) ?_
  · simp only [next?, hs.drop_eq, hbehind.drop_eq, Reader.next?,
      Token.read?_of_behindIgnored? hignored]
  · simp only [owed, List.length_nil]
    omega

/-- The start of a start tag pays for the opening of its element. -/
theorem takes_startTag (hs : StandsAt markup position ('<' :: rest)) (hname : startsName rest)
    (elements : OpenElements) :
    Takes markup ⟨position, elements, .content []⟩ none
      ⟨endOfRun isNameChar markup (position + 1), elements,
        .startTag (asciiLower (rest.takeWhile isNameChar)) []⟩ := by
  have hbehind := hs.add_one.endOfRun isNameChar
  have hread := (Token.read?_of_eq_none (behindIgnored?_of_startsName hname)).trans
    (if_pos ⟨rfl, hname⟩)
  have hlength := length_dropWhile_isNameChar_lt hname
  have hposition := hs.add_length_eq
  have hposition' := hbehind.add_length_eq
  refine .goesOn hbehind.le_length rfl ?_ (Nat.zero_le _) ?_
  · simp only [next?, hs.drop_eq, hbehind.drop_eq, Reader.next?, hread, readStartTag,
      List.nil_append]
  · simp only [owed, List.length_nil, List.length_cons] at hposition ⊢
    omega

theorem takes_endTag (hs : StandsAt markup position ('<' :: '/' :: rest)) (hname : startsName rest)
    (elements : OpenElements) :
    Takes markup ⟨position, elements, .content []⟩ (some (.closed (readEndTag rest).1))
      ⟨endOfEndTag markup position, elements.leave (readEndTag rest).1, .content []⟩ := by
  have hslash : startsName ('/' :: rest) = false := rfl
  have hread : Token.read? ('<' :: '/' :: rest) =
      some (.endTag (readEndTag rest).1, (readEndTag rest).2) :=
    (Token.read?_of_eq_none rfl).trans ((if_neg (by simp [hslash])).trans (if_pos ⟨rfl, rfl, hname⟩))
  have hnext : Reader.next? ⟨'<' :: '/' :: rest, elements, []⟩ =
      some (.closed (readEndTag rest).1,
        ⟨(readEndTag rest).2, elements.leave (readEndTag rest).1, []⟩) := by
    simp only [Reader.next?, hread]
  exact StandsFor.takes ⟨hs, rfl, rfl⟩ hnext ⟨hs.endOfEndTag, rfl, rfl⟩

theorem takes_text {first : Char} (hs : StandsAt markup position (first :: rest))
    (hread : Token.read? (first :: rest) =
      some (.text (readText first rest).1, (readText first rest).2)) (elements : OpenElements) :
    Takes markup ⟨position, elements, .content []⟩ (some (.text (readText first rest).1))
      ⟨endOfText markup position, elements, .content []⟩ := by
  have hnext : Reader.next? ⟨first :: rest, elements, []⟩ =
      some (.text (readText first rest).1, ⟨(readText first rest).2, elements, []⟩) := by
    simp only [Reader.next?, hread]
  exact StandsFor.takes ⟨hs, rfl, rfl⟩ hnext ⟨hs.endOfText, rfl, rfl⟩

theorem takes_contentTurn? (hs : StandsAt markup position s)
    (h : contentTurn? markup position elements = some (event?, c')) :
    Takes markup ⟨position, elements, .content []⟩ event? c' := by
  have hrel := hs.endOfIgnored?
  rw [contentTurn?, hs.drop_eq] at h
  generalize endOfIgnored? markup position = behind? at h hrel
  generalize hignored : behindIgnored? s = rest? at hrel
  cases hrel with
  | some hbehind =>
    obtain ⟨rfl, rfl⟩ := Prod.mk.inj (Option.some.inj h)
    exact takes_ignored hs hbehind hignored elements
  | none =>
    cases s with
    | nil => simp at h
    | cons first rest =>
      have hread := Token.read?_of_eq_none hignored
      simp only at h
      split at h
      · rename_i hstart
        obtain ⟨rfl, rfl⟩ := Prod.mk.inj (Option.some.inj h)
        obtain ⟨rfl, hname⟩ := hstart
        exact takes_startTag hs hname elements
      rename_i hstart
      split at h
      · rename_i hend
        obtain ⟨rfl, rfl⟩ := Prod.mk.inj (Option.some.inj h)
        obtain ⟨rfl, hslash, hname⟩ := hend
        obtain ⟨t, rfl⟩ := List.head?_eq_some_iff.1 hslash
        exact takes_endTag hs hname elements
      · rename_i hend
        obtain ⟨rfl, rfl⟩ := Prod.mk.inj (Option.some.inj h)
        exact takes_text hs (hread.trans ((if_neg hstart).trans (if_neg hend))) elements

/-! ### Turns in a start tag -/

theorem takes_finish (hs : StandsAt markup position s)
    (hread : readAttributes s = ([], selfClosing, rest)) (hbehind : StandsAt markup behind rest)
    (hpaid : position + selfClosing.toNat ≤ behind) (elements : OpenElements) (name : Text)
    (attributes : List Attribute) :
    Takes markup ⟨position, elements, .startTag name attributes⟩ (some (.opened name attributes))
      (behindStartTag markup ⟨name, attributes, selfClosing⟩ behind elements) := by
  have hstands := standsFor_behindStartTag hbehind ⟨name, attributes, selfClosing⟩ elements
  have hweight : (Reader.afterStartTag ⟨name, attributes, selfClosing⟩ rest elements).weight ≤
      rest.length + selfClosing.toNat := Reader.weight_afterStartTag_le _ _ _
  have hposition := hbehind.add_length_eq
  have hposition' := hstands.position_add_weight
  refine .reports hstands ?_ ?_
  · simp only [next?, hs.drop_eq, hread, List.append_nil]
  · change position + owed _ < _ + 1
    omega

theorem takes_more {more : List Attribute} (hs : StandsAt markup position s)
    (hread : readAttributes s = (more ++ (readAttributes rest).1, (readAttributes rest).2))
    (hbehind : StandsAt markup behind rest) (hlength : rest.length < s.length)
    (elements : OpenElements) (name : Text) (attributes : List Attribute) :
    Takes markup ⟨position, elements, .startTag name attributes⟩ none
      ⟨behind, elements, .startTag name (attributes ++ more)⟩ := by
  have hposition := hs.add_length_eq
  have hposition' := hbehind.add_length_eq
  refine .goesOn hbehind.le_length rfl ?_ (Nat.le_refl _) ?_
  · simp only [next?, hs.drop_eq, hbehind.drop_eq, hread, List.append_assoc]
  · simp only [owed]
    omega

theorem takes_startTagTurn (hs : StandsAt markup position s) (elements : OpenElements)
    (name : Text) (attributes : List Attribute) :
    Takes markup ⟨position, elements, .startTag name attributes⟩
      (startTagTurn markup position elements name attributes).1
      (startTagTurn markup position elements name attributes).2 := by
  have hstart := hs.endOfRun Unicode.isBlank
  have hle := le_endOfRun Unicode.isBlank markup position
  have hlength := (List.dropWhile_suffix (l := s) Unicode.isBlank).length_le
  have hread := readAttributes_eq s
  simp only [startTagTurn, hstart.drop_eq]
  generalize s.dropWhile Unicode.isBlank = behind at hstart hlength hread
  split
  · exact takes_finish hs hread hstart hle elements name attributes
  · exact takes_finish hs hread hstart.add_one (Nat.le_succ_of_le hle) elements name attributes
  · exact takes_finish hs hread hstart.add_one.add_one
      (Nat.succ_le_succ (Nat.le_succ_of_le hle)) elements name attributes
  · rename_i rest hrest
    have hmore : readAttributes s = ([] ++ (readAttributes rest).1, (readAttributes rest).2) := by
      grind
    have htakes := takes_more hs hmore hstart.add_one hlength elements name attributes
    rwa [List.append_nil] at htakes
  · rename_i first rest hclose hslashClose hslash
    have hmore : readAttributes s =
        ([(readAttribute first rest).1] ++ (readAttributes (readAttribute first rest).2).1,
          (readAttributes (readAttribute first rest).2).2) := by
      grind
    have hsuffix := (readAttribute_suffix first rest).length_le
    exact takes_more hs hmore hstart.endOfAttribute (Nat.lt_of_le_of_lt hsuffix hlength) elements
      name attributes

/-- A turn of a cursor within the markup does nothing else. -/
theorem takes_of_turn? (hposition : c.position ≤ markup.length)
    (h : c.turn? markup = some (event?, c')) : c.Takes markup event? c' := by
  obtain ⟨position, elements, phase⟩ := c
  cases phase with
  | content queued =>
    cases queued with
    | nil => exact takes_contentTurn? ⟨hposition, rfl⟩ h
    | cons event queued =>
      obtain ⟨rfl, rfl⟩ := Prod.mk.inj (Option.some.inj h)
      have hstands (queued : List Event) : StandsFor markup ⟨position, elements, .content queued⟩
          ⟨markup.drop position, elements, queued⟩ := ⟨⟨hposition, rfl⟩, rfl, rfl⟩
      exact (hstands (event :: queued)).takes rfl (hstands queued)
  | startTag name attributes =>
    obtain ⟨rfl, rfl⟩ := Prod.mk.inj (Option.some.inj h)
    exact takes_startTagTurn ⟨hposition, rfl⟩ elements name attributes

/-- There is no turn exactly at the end of the markup, with nothing queued. -/
theorem turn?_eq_none_iff (hposition : c.position ≤ markup.length) :
    c.turn? markup = none ↔ c.phase = .content [] ∧ c.position = markup.length := by
  obtain ⟨position, elements, phase⟩ := c
  cases phase with
  | startTag name attributes => simp [turn?]
  | content queued =>
    cases queued with
    | cons event queued => simp [turn?]
    | nil =>
      simp only [turn?, true_and]
      by_cases hend : position = markup.length
      · simp [contentTurn?, endOfIgnored?, hend]
      · obtain ⟨first, rest, hdrop⟩ := List.exists_cons_of_ne_nil
          (mt List.drop_eq_nil_iff.1 (Nat.not_le.2 (Nat.lt_of_le_of_ne hposition hend)))
        simp only [hend, iff_false, contentTurn?, hdrop]
        split
        · simp
        · split_ifs <;> simp

theorem next?_eq_none (hposition : c.position ≤ markup.length) (h : c.turn? markup = none) :
    c.next? markup = none := by
  obtain ⟨hphase, hend⟩ := (turn?_eq_none_iff hposition).1 h
  rw [next?, hphase, hend, List.drop_length]
  simp only [Reader.next?, Token.read?_nil]

end Cursor

end ApiReference.Markup
