import ApiReference.Log.Notice

/-!
# Where a page comes from

A page is fetched from the network, read from a file or taken from the standard input. Its content
is a sequence of bytes that has to be UTF-8.

## Main definitions

* `Source`, `Source.select`: the sources, and the one that the arguments of a command name.
* `LoadError`: why a page cannot be had.
* `Source.load`: the text of a page with the notices about its loading.
-/

namespace ApiReference.Command

open Log

/-- Where a page comes from. -/
inductive Source where
  | url (address : Text)
  | file (path : Text)
  | standardInput
deriving DecidableEq, Repr

/-- The source that an input names. A dash is the standard input and any other input is the path of
a file. Without an input the page is fetched. -/
def Source.select (input : Option Text) (address : Text) : Source :=
  match input with
  | none => .url address
  | some path => if path = "-" then .standardInput else .file path

/-- Why a page cannot be had. -/
inductive LoadError where
  /-- Nothing can be fetched from the address. -/
  | unreachable (address : Text)
  /-- What has been fetched is not UTF-8. -/
  | undecodableResponse (address : Text)
  /-- The file cannot be read or is not UTF-8. -/
  | unreadableFile (path : Text)
  /-- The standard input cannot be read or is not UTF-8. -/
  | unreadableInput
deriving DecidableEq, Repr

/-- The message of an error. -/
def LoadError.message : LoadError → Text
  | unreachable address => "failed to fetch " ++ address
  | undecodableResponse address => "failed to read response body from " ++ address
  | unreadableFile path => "failed to read " ++ path
  | unreadableInput => "failed to read stdin"

namespace Source

/-- The notices before a source is read. -/
def announcement : Source → List Notice
  | url address => [.fetching address]
  | file _ | standardInput => []

/-- The error when a source has no content. -/
def missing : Source → LoadError
  | url address => .unreachable address
  | file path => .unreadableFile path
  | standardInput => .unreadableInput

/-- The error when the content of a source is not UTF-8. -/
def undecodable : Source → LoadError
  | url address => .undecodableResponse address
  | file path => .unreadableFile path
  | standardInput => .unreadableInput

/-- The text of a page whose source has the given content, if it has one, and the notices about its
loading. -/
def load (source : Source) (content : Option ByteArray) : List Notice × Except LoadError Text :=
  match content with
  | none => (source.announcement, .error source.missing)
  | some bytes =>
    match String.fromUTF8? bytes with
    | none => (source.announcement, .error source.undecodable)
    | some markup => (source.announcement ++ [.loaded bytes.size], .ok markup.toList)

end Source

end ApiReference.Command
