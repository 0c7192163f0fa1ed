import ApiReference.Command.Options

/-!
# Options and arguments

What the options hold can be told from the items of the arguments, whatever the order in which these
are gathered. Arguments are accepted when no item is out of place: none is malformed, help is not
asked for, and an input, an option with one value and the switch that leaves functions out are given
at most once, with a value that can be read.

## Main definitions

* `inputs`, `values`: the inputs among some items, and the texts that are given for an option.
* `GivenOnce`: what an option holds that takes one value only.
* `Options.Gathered`: what options hold after some items.

## Main results

* `Options.gathered_cons_iff`: the items are gathered one by one.
* `Options.parse_eq_ok_iff`: the arguments that are accepted, and the options that they give.
-/

namespace ApiReference.Command

/-! ### What the items give -/

/-- The inputs among some items. -/
def inputs (items : List Item) : List Text :=
  items.filterMap fun
    | .input text => some text
    | _ => none

/-- The texts that some items give for an option. -/
def values (option : ValueOption) (items : List Item) : List Text :=
  items.filterMap fun
    | .value option' text => if option' = option then some text else none
    | _ => none

/-- What an option that takes one value only holds after some texts have been given for it: what it
held before when there are none, and else the value that is read from the only one. -/
inductive GivenOnce {α : Type} (read : Text → Option α) : Option α → List Text → Option α → Prop
  | keeps (given : Option α) : GivenOnce read given [] given
  | gets {text : Text} {value : α} (h : read text = some value) :
      GivenOnce read none [text] (some value)

/-- What options hold after some items have been added to others. -/
structure Options.Gathered (before : Options) (items : List Item) (options : Options) : Prop where
  inPlace : ∀ item ∈ items, item ≠ .malformed ∧ item ≠ .switch .help
  input : GivenOnce some before.input (inputs items) options.input
  url : GivenOnce some before.url (values .url items) options.url
  dialect : GivenOnce dialectOfName? before.dialect (values .dialect items) options.dialect
  package : GivenOnce some before.package (values .package items) options.package
  width : GivenOnce widthOfNumeral? before.width (values .width items) options.width
  startAt : GivenOnce some before.startAt (values .startAt items) options.startAt
  opaqueNames : options.opaqueNames = before.opaqueNames ++ values .opaqueName items
  skipFunctions : before.skipFunctions.toNat + items.count (.switch .skipFunctions) =
    options.skipFunctions.toNat
  verbosity : options.verbosity = min 255 (before.verbosity + items.count (.switch .verbose))

/-! ### One value -/

section

variable {α : Type} {read : Text → Option α} {given given' : Option α} {text : Text}
  {texts : List Text}

theorem givenOnce_nil_iff : GivenOnce read given [] given' ↔ given = given' := by
  constructor
  · rintro ⟨⟩
    rfl
  · rintro rfl
    exact .keeps given

/-- The first text is read when nothing has been given before. -/
theorem givenOnce_cons_iff : GivenOnce read given (text :: texts) given' ↔
    ∃ next, once given (read text) = .ok next ∧ GivenOnce read next texts given' := by
  constructor
  · intro h
    cases h with
    | gets hread => exact ⟨_, by rw [hread]; rfl, .keeps _⟩
  · rintro ⟨next, hnext, h⟩
    cases given with
    | some value => cases hnext
    | none =>
      cases hread : read text with
      | none =>
        rw [hread] at hnext
        cases hnext
      | some value =>
        rw [hread] at hnext
        cases hnext
        cases h with
        | keeps => exact .gets hread

end

/-! ### Gathering -/

namespace Options

variable {before next options : Options} {item : Item} {rest : List Item}

/-- What is added to options by an item that gives a value for an option of one value only. -/
theorem exists_of_once {α : Type} {given value : Option α} {set : Option α → Options}
    (h : (do return set (← once given value)) = Except.ok (ε := Stop) next) :
    ∃ given', once given value = .ok given' ∧ next = set given' := by
  cases hgiven : once given value with
  | error stop =>
    rw [hgiven] at h
    cases h
  | ok given' =>
    rw [hgiven] at h
    cases h
    exact ⟨given', rfl, rfl⟩

/-- An item that gives the first of some texts for an option of one value only can be added, and the
options are set to what it gives. -/
theorem exists_add_of_givenOnce {α : Type} {read : Text → Option α} {given given' : Option α}
    {text : Text} {texts : List Text} {set : Option α → Options}
    (hadd : before.add item = do return set (← once given (read text)))
    (h : GivenOnce read given (text :: texts) given')
    (hset : ∀ next, GivenOnce read next texts given' → Gathered (set next) rest options) :
    ∃ next, before.add item = .ok next ∧ Gathered next rest options := by
  obtain ⟨next, hnext, hrest⟩ := givenOnce_cons_iff.1 h
  exact ⟨set next, by rw [hadd, hnext]; rfl, hset next hrest⟩

/-- The first of the items can be added, and the others are gathered on top of it. -/
theorem Gathered.exists_add (h : Gathered before (item :: rest) options) :
    ∃ next, before.add item = .ok next ∧ Gathered next rest options := by
  obtain ⟨hitem, hrest⟩ := List.forall_mem_cons.1 h.inPlace
  -- An item changes what is held for it alone; all else is as `h` has it.
  cases item with
  | malformed => exact absurd rfl hitem.1
  | input text =>
    exact exists_add_of_givenOnce rfl h.input fun _ hinput ↦
      { h with inPlace := hrest, input := hinput }
  | switch switch =>
    cases switch with
    | help => exact absurd rfl hitem.2
    | verbose =>
      have hverbosity := h.verbosity
      rw [List.count_cons_self] at hverbosity
      exact ⟨{ before with verbosity := min 255 (before.verbosity + 1) }, rfl,
        { h with inPlace := hrest, verbosity := by simp only; omega }⟩
    | skipFunctions =>
      have hskip := h.skipFunctions
      rw [List.count_cons_self] at hskip
      have hle := Bool.toNat_le options.skipFunctions
      have hbefore : before.skipFunctions = false := by
        rw [← Bool.toNat_eq_zero]
        omega
      exact ⟨{ before with skipFunctions := true }, by rw [add, hbefore]; rfl,
        { h with inPlace := hrest, skipFunctions := by simp only [Bool.toNat_true]; omega }⟩
  | value option text =>
    cases option with
    | url =>
      exact exists_add_of_givenOnce rfl h.url fun _ hurl ↦
        { h with inPlace := hrest, url := hurl }
    | dialect =>
      exact exists_add_of_givenOnce rfl h.dialect fun _ hdialect ↦
        { h with inPlace := hrest, dialect := hdialect }
    | package =>
      exact exists_add_of_givenOnce rfl h.package fun _ hpackage ↦
        { h with inPlace := hrest, package := hpackage }
    | width =>
      exact exists_add_of_givenOnce rfl h.width fun _ hwidth ↦
        { h with inPlace := hrest, width := hwidth }
    | startAt =>
      exact exists_add_of_givenOnce rfl h.startAt fun _ hstart ↦
        { h with inPlace := hrest, startAt := hstart }
    | opaqueName =>
      exact ⟨{ before with opaqueNames := before.opaqueNames ++ [text] }, rfl,
        { h with inPlace := hrest, opaqueNames := h.opaqueNames.trans (List.append_cons _ _ _) }⟩

/-- An item that can be added is in place. -/
theorem inPlace_of_add (h : before.add item = .ok next) :
    item ≠ .malformed ∧ item ≠ .switch .help := by
  constructor
  · rintro rfl
    cases h
  · rintro rfl
    cases h

/-- Items that are gathered on top of an item are gathered with it. -/
theorem Gathered.cons (hadd : before.add item = .ok next) (h : Gathered next rest options) :
    Gathered before (item :: rest) options := by
  have hinPlace : ∀ item' ∈ item :: rest, item' ≠ .malformed ∧ item' ≠ .switch .help :=
    List.forall_mem_cons.2 ⟨inPlace_of_add hadd, h.inPlace⟩
  cases item with
  | malformed => cases hadd
  | input text =>
    obtain ⟨given, hgiven, rfl⟩ := exists_of_once hadd
    exact { h with
      inPlace := hinPlace, input := givenOnce_cons_iff.2 ⟨given, hgiven, h.input⟩ }
  | switch switch =>
    cases switch with
    | help => cases hadd
    | verbose =>
      cases hadd
      have hverbosity := h.verbosity
      exact { h with
        inPlace := hinPlace
        verbosity := by rw [List.count_cons_self]; simp only at hverbosity; omega }
    | skipFunctions =>
      cases hbefore : before.skipFunctions with
      | true =>
        rw [add, hbefore] at hadd
        cases hadd
      | false =>
        rw [add, hbefore] at hadd
        cases hadd
        have hskip := h.skipFunctions
        exact { h with
          inPlace := hinPlace
          skipFunctions := by
            rw [List.count_cons_self, hbefore, ← hskip, Bool.toNat_false, Bool.toNat_true]
            omega }
  | value option text =>
    cases option with
    | url =>
      obtain ⟨given, hgiven, rfl⟩ := exists_of_once hadd
      exact { h with inPlace := hinPlace, url := givenOnce_cons_iff.2 ⟨given, hgiven, h.url⟩ }
    | dialect =>
      obtain ⟨given, hgiven, rfl⟩ := exists_of_once hadd
      exact { h with
        inPlace := hinPlace, dialect := givenOnce_cons_iff.2 ⟨given, hgiven, h.dialect⟩ }
    | package =>
      obtain ⟨given, hgiven, rfl⟩ := exists_of_once hadd
      exact { h with
        inPlace := hinPlace, package := givenOnce_cons_iff.2 ⟨given, hgiven, h.package⟩ }
    | width =>
      obtain ⟨given, hgiven, rfl⟩ := exists_of_once hadd
      exact { h with inPlace := hinPlace, width := givenOnce_cons_iff.2 ⟨given, hgiven, h.width⟩ }
    | startAt =>
      obtain ⟨given, hgiven, rfl⟩ := exists_of_once hadd
      exact { h with
        inPlace := hinPlace, startAt := givenOnce_cons_iff.2 ⟨given, hgiven, h.startAt⟩ }
    | opaqueName =>
      cases hadd
      exact { h with
        inPlace := hinPlace, opaqueNames := h.opaqueNames.trans (List.append_cons _ _ _).symm }

/-- The items are gathered one by one. -/
theorem gathered_cons_iff : Gathered before (item :: rest) options ↔
    ∃ next, before.add item = .ok next ∧ Gathered next rest options :=
  ⟨Gathered.exists_add, fun ⟨_, hadd, h⟩ ↦ h.cons hadd⟩

/-- Without items the options are those that were there before. -/
theorem gathered_nil_iff (h : before.verbosity ≤ 255) :
    Gathered before [] options ↔ before = options := by
  have hmin : min 255 before.verbosity = before.verbosity := Nat.min_eq_right h
  constructor
  · intro hgathered
    have hopaque := hgathered.opaqueNames.trans (List.append_nil _)
    have hinjective : ∀ b b' : Bool, b.toNat = b'.toNat → b = b' := by decide
    have hskip := hinjective _ _ hgathered.skipFunctions
    have hverbosity := hgathered.verbosity.trans hmin
    obtain ⟨-, hinput, hurl, hdialect, hpackage, hwidth, hstart, -, -, -⟩ := hgathered
    cases before
    cases options
    rw [mk.injEq]
    exact ⟨givenOnce_nil_iff.1 hinput, givenOnce_nil_iff.1 hurl, givenOnce_nil_iff.1 hdialect,
      givenOnce_nil_iff.1 hpackage, givenOnce_nil_iff.1 hwidth, givenOnce_nil_iff.1 hstart,
      hopaque.symm, hskip, hverbosity.symm⟩
  · rintro rfl
    exact ⟨fun _ hitem ↦ absurd hitem List.not_mem_nil, .keeps _, .keeps _, .keeps _, .keeps _,
      .keeps _, .keeps _, (List.append_nil _).symm, rfl, hmin.symm⟩

/-- The verbosity stays below its limit. -/
theorem verbosity_le_of_add (hadd : before.add item = .ok next) (h : before.verbosity ≤ 255) :
    next.verbosity ≤ 255 := by
  cases item with
  | malformed => cases hadd
  | input text =>
    obtain ⟨given, -, rfl⟩ := exists_of_once hadd
    exact h
  | switch switch =>
    cases switch with
    | help => cases hadd
    | verbose =>
      cases hadd
      exact Nat.min_le_left _ _
    | skipFunctions =>
      rw [add] at hadd
      split at hadd <;> cases hadd
      exact h
  | value option text =>
    cases option with
    | opaqueName =>
      cases hadd
      exact h
    | url | dialect | package | width | startAt =>
      obtain ⟨given, -, rfl⟩ := exists_of_once hadd
      exact h

/-- Items are gathered by adding one after the other. -/
theorem foldlM_add_eq_ok_iff (items : List Item) (h : before.verbosity ≤ 255) :
    items.foldlM add before = .ok options ↔ Gathered before items options := by
  induction items generalizing before with
  | nil =>
    rw [gathered_nil_iff h]
    exact ⟨Except.ok.inj, congrArg Except.ok⟩
  | cons item rest ih =>
    rw [List.foldlM_cons, gathered_cons_iff]
    cases hadd : before.add item with
    | error stop => exact iff_of_false nofun fun ⟨_, hnext, _⟩ ↦ nomatch hnext
    | ok next =>
      refine (ih (verbosity_le_of_add hadd h)).trans ⟨fun hnext ↦ ⟨next, rfl, hnext⟩, ?_⟩
      rintro ⟨_, ⟨⟩, hnext⟩
      exact hnext

/-- The arguments that are accepted, and the options that they give. -/
theorem parse_eq_ok_iff {arguments : List Text} :
    parse arguments = .ok options ↔ Gathered {} (items arguments) options :=
  foldlM_add_eq_ok_iff (items arguments) (Nat.zero_le 255)

end Options

end ApiReference.Command
