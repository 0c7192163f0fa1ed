import ApiReference.Command.Directory
import ApiReference.Proofs.Command.Verbosity
import ApiReference.Proofs.Extraction
import ApiReference.Proofs.Page.Sections

/-!
# Runs of the command

Whether a run succeeds can be told from the options and from what the sources hold: comments must
have a width, the source that is named must hold a text, and the page must have the heading at which
to start. A run that succeeds writes the definitions of the page, and any other writes nothing and
fails with the message of the first of the three that does not hold. Where the options say nothing,
the width is 95, the dialect that of structures, the package `telegram` and the address that of the
reference page itself.

## Main definitions

* `Options.Selects`, `Holds`: the source that is named, and the text that it holds.
* `Options.Succeeds`, `Options.Fails`: how a run ends.

## Main results

* `Record.exists_ofFragments_iff`: the titles of records are the texts of headings.
* `Options.run_of_succeeds`, `Options.run_of_fails`: what comes of a run.
* `run_of_accepted`: runs of arguments that are accepted, and what their verbosity changes.
-/

namespace ApiReference.Page

/-- The titles of the records are the texts of the headings. -/
theorem Record.exists_ofFragments_iff {title : Text} (fragments : List Fragment) :
    (∃ record ∈ ofFragments fragments, record.title = title) ↔
      .block .heading title ∈ fragments := by
  rw [← List.mem_map, map_title_ofFragments, List.mem_filterMap]
  simp only [Fragment.heading?_eq_some_iff, exists_eq_right]

end ApiReference.Page

namespace ApiReference.Command

open Log Output Page

/-! ### What a run needs -/

/-- The source that the options name: for a dash the standard input, for another input the file of
that path, and without an input the page at the address. -/
inductive Options.Selects (options : Options) : Source → Prop
  | standardInput (h : options.input = some ("-" : Text)) : Selects options .standardInput
  | file (path : Text) (h : options.input = some path) (hpath : path ≠ "-") :
      Selects options (.file path)
  | url (h : options.input = none) :
      Selects options (.url (options.url.getD "https://core.telegram.org/bots/api"))

/-- A source holds a text when its content is the text in UTF-8. -/
def Holds (content : Source → Option ByteArray) (source : Source) (markup : Text) : Prop :=
  content source = some (String.ofList markup).toUTF8

/-- A run succeeds with a page. -/
structure Options.Succeeds (options : Options) (content : Source → Option ByteArray)
    (markup : Text) : Prop where
  width : options.width.getD 95 ≠ 0
  loads : ∃ source, options.Selects source ∧ Holds content source markup
  heading : ∀ title, options.startAt = some title → .block .heading title ∈ fragments markup

/-- A run fails with a message, which is the one of the first thing that it lacks. -/
inductive Options.Fails (options : Options) (content : Source → Option ByteArray) : Text → Prop
  | zeroWidth (hwidth : options.width.getD 95 = 0) :
      Fails options content "--width must be greater than zero"
  | standardInput (hwidth : options.width.getD 95 ≠ 0) (hsource : options.Selects .standardInput)
      (hcontent : ∀ markup, ¬ Holds content .standardInput markup) :
      Fails options content "failed to read stdin"
  | file (path : Text) (hwidth : options.width.getD 95 ≠ 0) (hsource : options.Selects (.file path))
      (hcontent : ∀ markup, ¬ Holds content (.file path) markup) :
      Fails options content ("failed to read " ++ path)
  | unreachable (address : Text) (hwidth : options.width.getD 95 ≠ 0)
      (hsource : options.Selects (.url address)) (hcontent : content (.url address) = none) :
      Fails options content ("failed to fetch " ++ address)
  | response (address : Text) (hwidth : options.width.getD 95 ≠ 0)
      (hsource : options.Selects (.url address)) (hfetched : content (.url address) ≠ none)
      (hcontent : ∀ markup, ¬ Holds content (.url address) markup) :
      Fails options content ("failed to read response body from " ++ address)
  | heading (source : Source) (markup title : Text) (hwidth : options.width.getD 95 ≠ 0)
      (hsource : options.Selects source) (hcontent : Holds content source markup)
      (hstart : options.startAt = some title) (htitle : .block .heading title ∉ fragments markup) :
      Fails options content ("heading not found: " ++ title)

/-! ### Loading -/

/-- The bytes from which a text can be decoded are the text in UTF-8. -/
theorem fromUTF8?_eq_some_iff {bytes : ByteArray} {s : String} :
    String.fromUTF8? bytes = some s ↔ bytes = s.toUTF8 := by
  rw [String.fromUTF8?, Option.dite_none_right_eq_some]
  constructor
  · rintro ⟨hvalid, h⟩
    obtain rfl := Option.some.inj h
    rfl
  · rintro rfl
    exact ⟨s.isValidUTF8, rfl⟩

variable {content : Source → Option ByteArray} {options : Options} {source : Source}
  {markup title : Text}

/-- The text that a source holds is loaded. -/
theorem exists_load_of_holds (h : Holds content source markup) :
    ∃ notices, source.load (content source) = (notices, .ok markup) := by
  have hdecode : String.fromUTF8? (String.ofList markup).toUTF8 = some (String.ofList markup) :=
    fromUTF8?_eq_some_iff.2 rfl
  rw [Holds] at h
  rw [h, Source.load]
  simp only [hdecode, String.toList_ofList]
  exact ⟨_, rfl⟩

/-- Nothing is loaded from a source that holds no text. -/
theorem load_of_not_holds (h : ∀ markup, ¬ Holds content source markup) :
    source.load (content source) = (source.announcement,
      .error (if content source = none then source.missing else source.undecodable)) := by
  cases hcontent : content source with
  | none => rfl
  | some bytes =>
    have hdecode : String.fromUTF8? bytes = none := by
      refine Option.eq_none_iff_forall_ne_some.2 fun s hs ↦ h s.toList ?_
      rw [Holds, hcontent, fromUTF8?_eq_some_iff.1 hs, String.ofList_toList]
    rw [Source.load, if_neg (Option.some_ne_none bytes)]
    simp only [hdecode]

/-! ### Runs -/

theorem Options.source_of_selects (hwidth : options.width.getD 95 ≠ 0)
    (hsource : options.Selects source) : options.source = .ok source := by
  rw [Options.source, Options.width_style, if_neg hwidth]
  cases hsource with
  | standardInput h => rw [h]; rfl
  | file path h hpath => rw [h, Source.select, if_neg hpath]
  | url h => rw [h]; rfl

/-- The options name a source. -/
theorem Options.exists_selects (options : Options) : ∃ source, options.Selects source := by
  cases hinput : options.input with
  | none => exact ⟨_, .url hinput⟩
  | some path =>
    by_cases hpath : path = ("-" : Text)
    · exact ⟨_, .standardInput (hpath ▸ hinput)⟩
    · exact ⟨_, .file path hinput hpath⟩

/-- A run that succeeds writes the definitions of the page. -/
theorem Options.run_of_succeeds (h : options.Succeeds content markup) :
    ∃ extraction notices, extract options.selection markup = .ok extraction ∧
      options.run content = .done (options.style.render extraction.definitions) notices := by
  obtain ⟨hwidth, ⟨source, hsource, hholds⟩, hheading⟩ := h
  obtain ⟨loading, hload⟩ := exists_load_of_holds hholds
  obtain ⟨chosen, hchosen⟩ : ∃ chosen, options.selection.Chooses (records markup) chosen :=
    Selection.exists_chooses fun title hstart ↦
      (Record.exists_ofFragments_iff _).2 (hheading title hstart)
  obtain ⟨extraction, hextract⟩ : ∃ extraction, extract options.selection markup = .ok extraction :=
    ⟨_, Selection.extract_of_chooses hchosen⟩
  refine ⟨extraction, options.shown (loading ++ extraction.notices), hextract, ?_⟩
  rw [Options.run, Options.source_of_selects hwidth hsource]
  simp only [Options.process, hload, hextract]

/-- A run whose source holds no text fails. -/
theorem Options.run_of_not_holds (hwidth : options.width.getD 95 ≠ 0)
    (hsource : options.Selects source) (h : ∀ markup, ¬ Holds content source markup) :
    options.run content = .failed
      (.load (if content source = none then source.missing else source.undecodable))
      (options.shown source.announcement) := by
  rw [Options.run, Options.source_of_selects hwidth hsource]
  simp only [Options.process, load_of_not_holds h]

/-- A run that lacks something fails with its message. -/
theorem Options.run_of_fails {message : Text} (h : options.Fails content message) :
    ∃ failure notices, options.run content = .failed failure notices ∧
      failure.message = message := by
  cases h with
  | zeroWidth hwidth =>
    refine ⟨.zeroWidth, [], ?_, rfl⟩
    rw [Options.run, Options.source, Options.width_style, if_pos hwidth]
  | standardInput hwidth hsource hcontent =>
    refine ⟨_, _, Options.run_of_not_holds hwidth hsource hcontent, ?_⟩
    split <;> rfl
  | file path hwidth hsource hcontent =>
    refine ⟨_, _, Options.run_of_not_holds hwidth hsource hcontent, ?_⟩
    split <;> rfl
  | unreachable address hwidth hsource hnone =>
    have hcontent (markup : Text) : ¬ Holds content (.url address) markup := by
      simp [Holds, hnone]
    refine ⟨_, _, Options.run_of_not_holds hwidth hsource hcontent, ?_⟩
    rw [if_pos hnone]
    rfl
  | response address hwidth hsource hfetched hcontent =>
    refine ⟨_, _, Options.run_of_not_holds hwidth hsource hcontent, ?_⟩
    rw [if_neg hfetched]
    rfl
  | heading source markup title hwidth hsource hholds hstart htitle =>
    obtain ⟨loading, hload⟩ := exists_load_of_holds hholds
    have hextract : extract options.selection markup = .error (.headingNotFound title) :=
      Selection.extract_of_missing hstart fun record hrecord hrecordTitle ↦
        htitle ((Record.exists_ofFragments_iff _).1 ⟨record, hrecord, hrecordTitle⟩)
    refine ⟨.extraction (.headingNotFound title), options.shown loading, ?_, rfl⟩
    rw [Options.run, Options.source_of_selects hwidth hsource]
    simp only [Options.process, hload, hextract]

/-- What a run lacks that cannot load its page. -/
theorem Options.exists_fails_of_not_holds (hwidth : options.width.getD 95 ≠ 0)
    (hsource : options.Selects source) (h : ∀ markup, ¬ Holds content source markup) :
    ∃ message, options.Fails content message := by
  cases source with
  | standardInput => exact ⟨_, .standardInput hwidth hsource h⟩
  | file path => exact ⟨_, .file path hwidth hsource h⟩
  | url address =>
    by_cases hfetched : content (.url address) = none
    · exact ⟨_, .unreachable address hwidth hsource hfetched⟩
    · exact ⟨_, .response address hwidth hsource hfetched h⟩

/-- A run succeeds, or it fails with some message. -/
theorem Options.exists_succeeds_or_fails (options : Options) (content : Source → Option ByteArray) :
    (∃ markup, options.Succeeds content markup) ∨ ∃ message, options.Fails content message := by
  by_cases hwidth : options.width.getD 95 = 0
  · exact .inr ⟨_, .zeroWidth hwidth⟩
  obtain ⟨source, hsource⟩ := options.exists_selects
  by_cases hholds : ∃ markup, Holds content source markup
  · obtain ⟨markup, hholds⟩ := hholds
    by_cases hheading :
        ∀ title, options.startAt = some title → .block .heading title ∈ fragments markup
    · exact .inl ⟨markup, hwidth, ⟨source, hsource, hholds⟩, hheading⟩
    · obtain ⟨title, hmissing⟩ := not_forall.1 hheading
      obtain ⟨hstart, htitle⟩ := Classical.not_imp.1 hmissing
      exact .inr ⟨_, .heading source markup title hwidth hsource hholds hstart htitle⟩
  · exact .inr (Options.exists_fails_of_not_holds hwidth hsource (not_exists.1 hholds))

/-- A run ends without an error exactly when it succeeds. -/
theorem Options.exitCode_run_eq_zero_iff :
    (options.run content).exitCode = 0 ↔ ∃ markup, options.Succeeds content markup := by
  constructor
  · intro hexit
    refine (options.exists_succeeds_or_fails content).resolve_right ?_
    rintro ⟨message, hfails⟩
    obtain ⟨failure, notices, hrun, -⟩ := Options.run_of_fails hfails
    rw [hrun] at hexit
    cases hexit
  · rintro ⟨markup, hsucceeds⟩
    obtain ⟨extraction, notices, -, hrun⟩ := Options.run_of_succeeds hsucceeds
    rw [hrun]
    rfl

/-- A run that does not succeed writes nothing. -/
theorem Options.run_of_exitCode_ne_zero (h : (options.run content).exitCode ≠ 0) :
    (options.run content).exitCode = 1 ∧ (options.run content).output? = some [] := by
  have hnot : ¬ ∃ markup, options.Succeeds content markup :=
    fun hsucceeds ↦ h (Options.exitCode_run_eq_zero_iff.2 hsucceeds)
  obtain ⟨message, hfails⟩ := (options.exists_succeeds_or_fails content).resolve_left hnot
  obtain ⟨failure, notices, hrun, -⟩ := Options.run_of_fails hfails
  rw [hrun]
  exact ⟨rfl, rfl⟩

/-- The message of a run is that of what it lacks. -/
theorem Options.message?_run_eq_some_iff {message : Text} :
    (options.run content).message? = some message ↔ options.Fails content message := by
  constructor
  · intro hmessage
    rcases options.exists_succeeds_or_fails content with ⟨markup, hsucceeds⟩ | ⟨message', hfails⟩
    · obtain ⟨extraction, notices, -, hrun⟩ := Options.run_of_succeeds hsucceeds
      rw [hrun] at hmessage
      cases hmessage
    · obtain ⟨failure, notices, hrun, rfl⟩ := Options.run_of_fails hfails
      rw [hrun] at hmessage
      obtain rfl := Option.some.inj hmessage
      exact hfails
  · intro hfails
    obtain ⟨failure, notices, hrun, rfl⟩ := Options.run_of_fails hfails
    rw [hrun]
    rfl

/-- A run of arguments that are accepted, whose options are then those that the arguments give,
succeeds exactly when the width is not zero, the source that is named holds a text, and the heading
at which to start is one of the page. It writes the definitions of the page then, those that are
asked for and in the style that is asked for. Otherwise it writes nothing and fails with the message
of the first of the three that does not hold. How often more notices are asked for changes nothing
of this; the log has those of all notices whose levels are shown at its own verbosity. -/
theorem run_of_accepted {arguments : List Text} {options : Options}
    (haccepted : Options.parse arguments = .ok options) (content : Source → Option ByteArray) :
    Options.Gathered {} (items arguments) options ∧
    ((run arguments content).exitCode = 0 ↔ ∃ markup, options.Succeeds content markup) ∧
    (∀ markup, options.Succeeds content markup → ∃ extraction,
      extract {
        startAt := options.startAt
        includeFunctions := !options.skipFunctions } markup = .ok extraction ∧
      (run arguments content).output? = some (Style.render {
        dialect := options.dialect.getD .struct
        package := options.package.getD "telegram"
        width := options.width.getD 95
        opaqueNames := options.opaqueNames } extraction.definitions)) ∧
    ((run arguments content).exitCode ≠ 0 →
      (run arguments content).exitCode = 1 ∧ (run arguments content).output? = some []) ∧
    (∀ message, (run arguments content).message? = some message ↔ options.Fails content message) ∧
    ∀ arguments', otherItems arguments' = otherItems arguments →
      (run arguments' content).exitCode = (run arguments content).exitCode ∧
      (run arguments' content).message? = (run arguments content).message? ∧
      (run arguments' content).output? = (run arguments content).output? ∧
      (3 ≤ verboseCount arguments' →
        (run arguments content).notices = (run arguments' content).notices.filter
          (·.level ∈ shownLevels (verboseCount arguments))) := by
  have hrun : run arguments content = options.run content := by rw [run, haccepted]
  refine ⟨Options.parse_eq_ok_iff.1 haccepted, ?_, fun markup hsucceeds ↦ ?_, ?_,
    fun message ↦ ?_, fun arguments' hsame ↦ run_of_otherItems_eq haccepted hsame content⟩
  · rw [hrun]
    exact Options.exitCode_run_eq_zero_iff
  · obtain ⟨extraction, notices, hextract, hdone⟩ := Options.run_of_succeeds hsucceeds
    rw [hrun, hdone]
    exact ⟨extraction, hextract, rfl⟩
  · rw [hrun]
    exact Options.run_of_exitCode_ne_zero
  · rw [hrun]
    exact Options.message?_run_eq_some_iff

/-- A page in a folder is read from its second heading on and written as messages with narrow
comments, whatever the verbosity. It has no third heading. -/
theorem run_of_page_in_folder :
    let page : Text :=
      "<h4>Chat</h4><h4>User</h4><p>A user or a bot.</p><table><tr><th>Field</th><th>Type</th>" ++
        "<th>Description</th></tr><tr><td>id</td><td>Integer</td><td>Key</td></tr></table>"
    let directory := Directory.ofFiles [("docs/api.html", (String.ofList page).toUTF8)]
    let content : Source → Option ByteArray
      | .file path => directory.read? path
      | .standardInput | .url _ => none
    let arguments : List Text := ["-vw8", "-dmessage", "--start-at", "User", "docs/api.html"]
    let arguments' : List Text := ["-w8", "-vdmessage", "--start-at=User", "-vv", "docs/api.html"]
    let output : Text :=
      "// A user\n// or a\n// bot.\nmessage User \x7b\n\n  // Key\n  int64 id = 1;\n\x7d\n"
    (run arguments content).exitCode = 0 ∧
      (run arguments content).output? = some output ∧
      (run arguments' content).exitCode = 0 ∧
      (run arguments content).notices =
        (run arguments' content).notices.filter (·.level ∈ [.warn, .info]) ∧
      (run ["--start-at=Bot", "docs/api.html"] content).message? =
        some ("heading not found: Bot" : Text) := by
  intro page directory content arguments arguments' output
  let options : Options := {
    input := some ("docs/api.html" : Text)
    dialect := some .message
    width := some 8
    startAt := some ("User" : Text)
    verbosity := 1 }
  have hpath : Directory.IsFilePath "docs/api.html" :=
    ⟨by decide, by decide, ("api.html" : Text), by decide, by decide⟩
  have hread : Holds content (.file "docs/api.html") page :=
    Directory.read?_ofFiles [] hpath nofun
  have hheading : .block .heading "User" ∈ fragments page := by decide +kernel
  have hmissing : .block .heading "Bot" ∉ fragments page := by decide +kernel
  have haccepted : Options.parse arguments = .ok options := by rfl
  obtain ⟨-, hexit, houtput, -, -, hother⟩ := run_of_accepted haccepted content
  have hsucceeds : options.Succeeds content page := {
    width := by decide
    loads := ⟨_, .file _ rfl (by decide), hread⟩
    heading := by
      rintro title htitle
      cases htitle
      exact hheading }
  have hzero : (run arguments content).exitCode = 0 := hexit.2 ⟨page, hsucceeds⟩
  obtain ⟨extraction, hextract, hwritten⟩ := houtput page hsucceeds
  obtain ⟨hexit', -, -, hnotices⟩ := hother arguments' (by decide)
  have haccepted' : Options.parse ["--start-at=Bot", "docs/api.html"] =
      .ok { input := some ("docs/api.html" : Text), startAt := some ("Bot" : Text) } := by rfl
  obtain ⟨-, -, -, -, hmessage, -⟩ := run_of_accepted haccepted' content
  refine ⟨hzero, ?_, hexit'.trans hzero, hnotices (by decide), (hmessage _).2 ?_⟩
  · have hrendered : (extract { startAt := some ("User" : Text) } page).toOption.map
        (Style.render { dialect := .message, width := 8 } ·.definitions) = some output := by
      decide +kernel
    have hextract' : extract { startAt := some ("User" : Text) } page = .ok extraction := hextract
    rw [hextract'] at hrendered
    exact hwritten.trans hrendered
  · exact .heading _ page "Bot" (by decide) (.file _ rfl (by decide)) hread rfl hmissing

end ApiReference.Command
