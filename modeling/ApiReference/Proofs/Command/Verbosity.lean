import ApiReference.Command.Run
import ApiReference.Proofs.Command.Options

/-!
# Verbosity

The switch that asks for more notices may be given any number of times, at any places and between
any other arguments. It changes nothing but which notices of a run are shown: a run with the same
other items ends in the same way, and it shows those of all notices whose levels its own number of
switches shows.

## Main definitions

* `verboseCount`, `otherItems`: the number of switches that ask for more notices, and all else that
  is given.
* `shownLevels`: the levels that such a number of switches shows.
* `Outcome.output?`, `Outcome.message?`: what a run writes to the standard output, and its error.
* `Options.withVerbosity`, `Outcome.filterNotices`: options and outcomes that differ in notices
  only.

## Main results

* `Options.Gathered.withVerbosity`: the options that items give do not depend on the switches.
* `Options.parse_of_otherItems_eq`: arguments with the same other items give the same options up to
  the verbosity.
* `Options.run_withVerbosity`: what the verbosity changes about a run.
* `run_of_otherItems_eq`: two runs that differ in the verbosity only.
-/

namespace ApiReference.Command

open Log

/-! ### The switches -/

/-- How often more notices are asked for. -/
def verboseCount (arguments : List Text) : Nat := (items arguments).count (.switch .verbose)

/-- All that is given apart from the wish for more notices. -/
def otherItems (arguments : List Text) : List Item :=
  (items arguments).filter (· ≠ .switch .verbose)

/-- The levels that are shown when more notices are asked for so many times. -/
def shownLevels : Nat → List Level
  | 0 => [.warn]
  | 1 => [.warn, .info]
  | 2 => [.warn, .info, .debug]
  | _ + 3 => [.warn, .info, .debug, .trace]

/-- Counting the switches up to 255 tells them apart as far as the levels go. -/
theorem shownAt_min_iff (count : Nat) (level : Level) :
    level.shownAt (min 255 count) ↔ level ∈ shownLevels count := by
  have hle : level.verbosity ≤ min 255 count ↔ level.verbosity ≤ count := by
    cases level <;> simp only [Level.verbosity] <;> omega
  rw [Level.shownAt, decide_eq_true_iff, hle]
  match count with
  | 0 => cases level <;> decide
  | 1 => cases level <;> decide
  | 2 => cases level <;> decide
  | _ + 3 => cases level <;> simp [Level.verbosity, shownLevels]

/-- What is gathered from items without a look at the switches is the same without them. -/
theorem filterMap_filter_ne_verbose {α : Type} {give : Item → Option α}
    (h : give (.switch .verbose) = none) (items : List Item) :
    (items.filter (· ≠ .switch .verbose)).filterMap give = items.filterMap give := by
  have hgive (item : Item) : (if item ≠ .switch .verbose then give item else none) = give item := by
    by_cases hverbose : item = .switch .verbose
    · rw [hverbose, h, ite_self]
    · rw [if_pos hverbose]
  simp only [List.filterMap_filter, decide_eq_true_eq, hgive]

namespace Options

variable {options : Options}

/-- The options with another verbosity. -/
def withVerbosity (options : Options) (verbosity : Nat) : Options :=
  { options with verbosity := verbosity }

/-- The options that are gathered do not depend on the switches, which are only counted. -/
theorem Gathered.withVerbosity {before : Options} {items items' : List Item}
    (h : Gathered before items options)
    (hsame : items'.filter (· ≠ .switch .verbose) = items.filter (· ≠ .switch .verbose)) :
    Gathered before items'
      (options.withVerbosity (min 255 (before.verbosity + items'.count (.switch .verbose)))) := by
  have hgive {α : Type} {give : Item → Option α} (hnone : give (.switch .verbose) = none) :
      items'.filterMap give = items.filterMap give := by
    rw [← filterMap_filter_ne_verbose hnone items', hsame, filterMap_filter_ne_verbose hnone]
  have hinputs : inputs items' = inputs items := hgive rfl
  have hvalues (option : ValueOption) : values option items' = values option items := hgive rfl
  have hskip : items'.count (.switch .skipFunctions) = items.count (.switch .skipFunctions) := by
    rw [← List.count_filter (l := items') (p := (· ≠ .switch .verbose)) rfl, hsame,
      List.count_filter rfl]
  refine {
    inPlace := fun item hitem ↦ ?_
    input := hinputs ▸ h.input
    url := hvalues .url ▸ h.url
    dialect := hvalues .dialect ▸ h.dialect
    package := hvalues .package ▸ h.package
    width := hvalues .width ▸ h.width
    startAt := hvalues .startAt ▸ h.startAt
    opaqueNames := hvalues .opaqueName ▸ h.opaqueNames
    skipFunctions := hskip ▸ h.skipFunctions
    verbosity := rfl }
  by_cases hverbose : item = .switch .verbose
  · rw [hverbose]
    exact ⟨nofun, nofun⟩
  · have hmem : item ∈ items'.filter (· ≠ .switch .verbose) :=
      List.mem_filter.2 ⟨hitem, by simpa using hverbose⟩
    rw [hsame] at hmem
    exact h.inPlace item (List.mem_filter.1 hmem).1

/-- The verbosity is the number of switches. -/
theorem verbosity_of_parse {arguments : List Text} (h : parse arguments = .ok options) :
    options.withVerbosity (min 255 (verboseCount arguments)) = options := by
  have hverbosity := (parse_eq_ok_iff.1 h).verbosity
  rw [Nat.zero_add] at hverbosity
  rw [verboseCount, ← hverbosity, withVerbosity]

/-- Arguments with the same other items give the same options up to the verbosity. -/
theorem parse_of_otherItems_eq {arguments arguments' : List Text}
    (h : parse arguments = .ok options) (hsame : otherItems arguments' = otherItems arguments) :
    parse arguments' = .ok (options.withVerbosity (min 255 (verboseCount arguments'))) := by
  have hgathered := (parse_eq_ok_iff.1 h).withVerbosity hsame
  rw [Nat.zero_add] at hgathered
  exact parse_eq_ok_iff.2 hgathered

end Options

/-! ### The notices that are shown -/

namespace Outcome

/-- What a run that has started writes to the standard output. -/
def output? : Outcome → Option Text
  | stopped _ => none
  | failed .. => some []
  | done output _ => some output

/-- The message with which a run fails. -/
def message? : Outcome → Option Text
  | failed failure _ => some failure.message
  | stopped _ | done .. => none

/-- What comes of a run when only some of its notices are shown. -/
def filterNotices (keep : Notice → Bool) : Outcome → Outcome
  | stopped stop => stopped stop
  | failed failure notices => failed failure (notices.filter keep)
  | done output notices => done output (notices.filter keep)

@[simp] theorem exitCode_filterNotices (keep : Notice → Bool) (outcome : Outcome) :
    (outcome.filterNotices keep).exitCode = outcome.exitCode := by
  cases outcome <;> rfl

@[simp] theorem notices_filterNotices (keep : Notice → Bool) (outcome : Outcome) :
    (outcome.filterNotices keep).notices = outcome.notices.filter keep := by
  cases outcome <;> rfl

@[simp] theorem message?_filterNotices (keep : Notice → Bool) (outcome : Outcome) :
    (outcome.filterNotices keep).message? = outcome.message? := by
  cases outcome <;> rfl

@[simp] theorem output?_filterNotices (keep : Notice → Bool) (outcome : Outcome) :
    (outcome.filterNotices keep).output? = outcome.output? := by
  cases outcome <;> rfl

end Outcome

namespace Options

/-- Every notice is shown at the greatest verbosity, and at another one those of its levels. -/
theorem shown_withVerbosity (options : Options) (verbosity : Nat) (notices : List Notice) :
    (options.withVerbosity verbosity).shown notices =
      ((options.withVerbosity 3).shown notices).filter (·.level.shownAt verbosity) := by
  have hall : (options.withVerbosity 3).shown notices = notices := by
    refine List.filter_eq_self.2 fun notice _ ↦ ?_
    cases notice <;> rfl
  rw [hall]
  rfl

/-- The verbosity changes nothing about a run but which notices are shown. -/
theorem run_withVerbosity (options : Options) (verbosity : Nat)
    (content : Source → Option ByteArray) :
    (options.withVerbosity verbosity).run content =
      ((options.withVerbosity 3).run content).filterNotices (·.level.shownAt verbosity) := by
  have hsource : (options.withVerbosity verbosity).source = (options.withVerbosity 3).source := rfl
  have hselection (markup : Text) : extract (options.withVerbosity verbosity).selection markup =
      extract (options.withVerbosity 3).selection markup := rfl
  rw [run, run, hsource]
  cases (options.withVerbosity 3).source with
  | error failure => rfl
  | ok source =>
    simp only [process]
    split
    · simp only [shown_withVerbosity options verbosity, Outcome.filterNotices]
    · rw [hselection]
      split
      · simp only [shown_withVerbosity options verbosity, Outcome.filterNotices]
      · simp only [shown_withVerbosity options verbosity, Outcome.filterNotices]
        rfl

end Options

/-- Arguments with the same other items make the same run, and how often more notices are asked for
decides only which notices are shown. -/
theorem run_of_otherItems_eq {arguments arguments' : List Text} {options : Options}
    (haccepted : Options.parse arguments = .ok options)
    (hsame : otherItems arguments' = otherItems arguments) (content : Source → Option ByteArray) :
    (run arguments' content).exitCode = (run arguments content).exitCode ∧
    (run arguments' content).message? = (run arguments content).message? ∧
    (run arguments' content).output? = (run arguments content).output? ∧
    (3 ≤ verboseCount arguments' →
      (run arguments content).notices = (run arguments' content).notices.filter
        (·.level ∈ shownLevels (verboseCount arguments))) := by
  -- Both runs are the one that shows all notices, with some of these left out.
  have hrun : run arguments content = ((options.withVerbosity 3).run content).filterNotices
      (·.level.shownAt (min 255 (verboseCount arguments))) := by
    rw [run, haccepted, ← Options.run_withVerbosity, Options.verbosity_of_parse haccepted]
  have hrun' : run arguments' content = ((options.withVerbosity 3).run content).filterNotices
      (·.level.shownAt (min 255 (verboseCount arguments'))) := by
    rw [run, Options.parse_of_otherItems_eq haccepted hsame, ← Options.run_withVerbosity]
  refine ⟨by rw [hrun, hrun']; simp, by rw [hrun, hrun']; simp, by rw [hrun, hrun']; simp, ?_⟩
  intro hcount
  rw [hrun, hrun', Outcome.notices_filterNotices, Outcome.notices_filterNotices, List.filter_filter]
  refine List.filter_congr fun notice _ ↦ Bool.eq_iff_iff.2 ?_
  have hall : notice.level ∈ shownLevels (verboseCount arguments') := by
    obtain ⟨count, hcount⟩ := Nat.exists_eq_add_of_le' hcount
    rw [hcount]
    cases notice.level <;> simp [shownLevels]
  rw [Bool.and_eq_true, decide_eq_true_iff, shownAt_min_iff, shownAt_min_iff]
  exact ⟨fun h ↦ ⟨h, hall⟩, fun h ↦ h.1⟩

end ApiReference.Command
