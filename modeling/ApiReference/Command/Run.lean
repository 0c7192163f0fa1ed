import ApiReference.Command.Options
import ApiReference.Command.Source
import ApiReference.Output.Rendering

/-!
# Running the command

The command reads a page, extracts its definitions and writes them in a dialect. Three things can go
wrong, and they are met in this order: the width is zero, the page cannot be loaded, or it lacks the
heading at which to start. The log holds the notices up to that point, as far as the verbosity shows
them. The environment can hold a filter for the log that takes the place of the verbosity. Such
filters are left out, and the log is the one of an environment without a filter.

## Main definitions

* `Failure`, `Outcome`: how a run fails and what comes of it.
* `Options.source`: the source that is to be read, once the width is known to be good.
* `Options.process`: what comes of a run whose source has been read.
* `run`: what comes of some arguments, given what the sources hold.
-/

namespace ApiReference.Command

open Log Output

/-- How a run fails. -/
inductive Failure where
  /-- Comments of no width are asked for. -/
  | zeroWidth
  | load (error : LoadError)
  | extraction (error : ExtractionError)
deriving DecidableEq, Repr

/-- The message of a failure. -/
def Failure.message : Failure → Text
  | zeroWidth => "--width must be greater than zero"
  | load error => error.message
  | extraction error => error.message

/-- What comes of a run. -/
inductive Outcome where
  /-- The run ends before it starts. -/
  | stopped (stop : Stop)
  /-- The run fails after some notices. -/
  | failed (failure : Failure) (notices : List Notice)
  /-- The run gives an output after some notices. -/
  | done (output : Text) (notices : List Notice)
deriving DecidableEq, Repr

namespace Outcome

/-- The exit code of the command. -/
def exitCode : Outcome → Nat
  | stopped .usage => 2
  | stopped .help => 0
  | failed .. => 1
  | done .. => 0

/-- The notices of a run. -/
def notices : Outcome → List Notice
  | stopped _ => []
  | failed _ notices => notices
  | done _ notices => notices

/-- The lines of the log. A title may have several lines. -/
def logLines (outcome : Outcome) : List Text :=
  outcome.notices.flatMap fun notice ↦ Text.lines notice.line

end Outcome

namespace Options

/-- The source that is to be read. -/
def source (options : Options) : Except Failure Source :=
  if options.style.width = 0 then .error .zeroWidth
  else .ok (.select options.input options.address)

/-- The notices that are shown when the environment holds no filter for the log. -/
def shown (options : Options) (notices : List Notice) : List Notice :=
  notices.filter fun notice ↦ notice.level.shownAt options.verbosity

/-- What comes of a run whose source has the given content, if it has one. -/
def process (options : Options) (source : Source) (content : Option ByteArray) : Outcome :=
  match source.load content with
  | (loading, .error error) => .failed (.load error) (options.shown loading)
  | (loading, .ok markup) =>
    match extract options.selection markup with
    | .error error => .failed (.extraction error) (options.shown loading)
    | .ok extraction =>
      .done (options.style.render extraction.definitions)
        (options.shown (loading ++ extraction.notices))

/-- What comes of a run with some options, given the content of every source. -/
def run (options : Options) (content : Source → Option ByteArray) : Outcome :=
  match options.source with
  | .error failure => .failed failure []
  | .ok source => options.process source (content source)

end Options

/-- What comes of a run with some arguments, given the content of every source. -/
def run (arguments : List Text) (content : Source → Option ByteArray) : Outcome :=
  match Options.parse arguments with
  | .error stop => .stopped stop
  | .ok options => options.run content

end ApiReference.Command
