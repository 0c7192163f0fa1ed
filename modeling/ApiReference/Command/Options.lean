import ApiReference.Command.Argument
import ApiReference.Extraction
import ApiReference.Output.Style
import ApiReference.Text.Numeral

/-!
# Options of the command

The items of the arguments are gathered one by one into options. The first item that is out of place
ends the command: a malformed argument, a second value for an option that takes one only, a value
that the option does not admit, a second input, or the wish for help.

## Main definitions

* `Options`, `Options.add`, `Options.parse`: the options gathered from the items.
* `Stop`: why a command ends before it starts.
* `Options.selection`, `Options.style`, `Options.address`: what the options ask for, with defaults.
-/

namespace ApiReference.Command

open Output

/-- What has been given on the command line. -/
structure Options where
  input : Option Text := none
  url : Option Text := none
  dialect : Option Dialect := none
  package : Option Text := none
  width : Option Nat := none
  startAt : Option Text := none
  opaqueNames : List Text := []
  skipFunctions : Bool := false
  verbosity : Nat := 0
deriving DecidableEq, Repr

/-- Why a command ends before it starts. -/
inductive Stop where
  /-- The arguments are not what the command takes. -/
  | usage
  /-- Help is asked for. -/
  | help
deriving DecidableEq, Repr

/-- The dialect of a name. -/
def dialectOfName? (name : Text) : Option Dialect :=
  List.lookup name [("struct", .struct), ("message", .message), ("json", .json)]

/-- The greatest width that can be asked for: the greatest number of sixty-four bits. -/
def maximalWidth : Nat := 18446744073709551615

/-- The width of a decimal numeral, which may have a plus sign. -/
def widthOfNumeral? (numeral : Text) : Option Nat :=
  let digits :=
    match numeral with
    | '+' :: digits => digits
    | digits => digits
  let width := Text.numeralValue 10 digits
  if !digits.isEmpty && digits.all Char.isDigit && width ≤ maximalWidth then some width else none

/-- A value for an option that takes one value only. -/
def once {α : Type} (given : Option α) (value : Option α) : Except Stop (Option α) :=
  match given, value with
  | none, some value => .ok (some value)
  | _, _ => .error .usage

namespace Options

/-- The options with a further item. -/
def add (options : Options) : Item → Except Stop Options
  | .malformed => .error .usage
  | .input text => return { options with input := ← once options.input (some text) }
  | .switch .help => .error .help
  | .switch .verbose => .ok { options with verbosity := min 255 (options.verbosity + 1) }
  | .switch .skipFunctions =>
    if options.skipFunctions then .error .usage else .ok { options with skipFunctions := true }
  | .value .url text => return { options with url := ← once options.url (some text) }
  | .value .dialect text =>
    return { options with dialect := ← once options.dialect (dialectOfName? text) }
  | .value .package text => return { options with package := ← once options.package (some text) }
  | .value .width text =>
    return { options with width := ← once options.width (widthOfNumeral? text) }
  | .value .startAt text => return { options with startAt := ← once options.startAt (some text) }
  | .value .opaqueName text => .ok { options with opaqueNames := options.opaqueNames ++ [text] }

/-- The options that some arguments give. -/
def parse (arguments : List Text) : Except Stop Options := (items arguments).foldlM add {}

/-- The definitions that are asked for. -/
def selection (options : Options) : Selection where
  startAt := options.startAt
  includeFunctions := !options.skipFunctions

/-- The style that is asked for. -/
def style (options : Options) : Style where
  dialect := options.dialect.getD .struct
  package := options.package.getD "telegram"
  width := options.width.getD 95
  opaqueNames := options.opaqueNames

@[simp] theorem width_style (options : Options) :
    options.style.width = options.width.getD 95 :=
  rfl

/-- The address from which a page is fetched. -/
def address (options : Options) : Text := options.url.getD "https://core.telegram.org/bots/api"

end Options

end ApiReference.Command
