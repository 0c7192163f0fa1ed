import ApiReference.Text.Basic

/-!
# Arguments of the command

The arguments of the command are options, which start with a dash, and inputs. An option has a long
name behind two dashes, most have a letter behind one, and several letters may share a dash. Some
options are switches, the others take a value: behind an equals sign, directly behind their letter,
or as the next argument, which then must not look like an option itself. A dash by itself is an
input or a value, and two dashes by themselves end the options. Long names are neither abbreviated
nor taken in another case.

The arguments are taken apart into *items*. What a value means, and how often an option may be
given, is not asked here.

## Main definitions

* `ValueOption`, `Switch`, `Item`: the options, and what the arguments consist of.
* `Argument`, `Argument.ofText`: what a single argument is by itself.
* `items`: the items of some arguments.
-/

namespace ApiReference.Command

/-! ### Options and items -/

/-- The options that take a value. -/
inductive ValueOption where
  | url
  | dialect
  | package
  | width
  | startAt
  | opaqueName
deriving DecidableEq, Repr

/-- The options that take none. -/
inductive Switch where
  | skipFunctions
  | verbose
  | help
deriving DecidableEq, Repr

/-- What the arguments consist of. -/
inductive Item where
  /-- An option with its value. -/
  | value (option : ValueOption) (text : Text)
  /-- An option without a value. -/
  | switch (switch : Switch)
  /-- An argument that is no option. -/
  | input (text : Text)
  /-- An unknown option, a switch with a value or an option that lacks its value. -/
  | malformed
deriving DecidableEq, Repr

/-- The long names of the options that take a value. -/
def ValueOption.ofLong? (name : Text) : Option ValueOption :=
  List.lookup name [
    ("url", url), ("dialect", dialect), ("package", package), ("width", width),
    ("start-at", startAt), ("opaque", opaqueName)]

/-- The letters of the options that take a value. -/
def ValueOption.ofShort? (letter : Char) : Option ValueOption :=
  [('u', url), ('d', dialect), ('p', package), ('w', width)].lookup letter

/-- The long names of the switches. -/
def Switch.ofLong? (name : Text) : Option Switch :=
  List.lookup name [("skip-functions", skipFunctions), ("verbose", verbose), ("help", help)]

/-- The letters of the switches. -/
def Switch.ofShort? (letter : Char) : Option Switch :=
  [('v', verbose), ('h', help)].lookup letter

/-! ### Arguments -/

/-- What one argument is by itself. -/
inductive Argument where
  /-- It is no option. -/
  | input (text : Text)
  /-- It consists of items that are complete. -/
  | complete (items : List Item)
  /-- It ends with an option whose value is the next argument. -/
  | awaiting (items : List Item) (option : ValueOption)
  /-- It ends the options. -/
  | endOfOptions
deriving DecidableEq, Repr

/-- An argument with an item in front of it. -/
def Argument.cons (item : Item) : Argument → Argument
  | complete items => complete (item :: items)
  | awaiting items option => awaiting (item :: items) option
  | other => other

/-- The letters behind one dash. An option that takes a value takes all that is behind its letter,
where an equals sign in front does not count. -/
def ofLetters : Text → Argument
  | [] => .complete []
  | letter :: rest =>
    match Switch.ofShort? letter with
    | some switch => (ofLetters rest).cons (.switch switch)
    | none =>
      match ValueOption.ofShort? letter, rest with
      | some option, [] => .awaiting [] option
      | some option, '=' :: value => .complete [.value option value]
      | some option, value => .complete [.value option value]
      | none, _ => .complete [.malformed]

/-- What stands behind two dashes: a name, and a value if there is an equals sign. -/
def ofLong (long : Text) : Argument :=
  let name := long.takeWhile (· != '=')
  match long.dropWhile (· != '='), ValueOption.ofLong? name, Switch.ofLong? name with
  | _ :: value, some option, _ => .complete [.value option value]
  | [], some option, _ => .awaiting [] option
  | [], none, some switch => .complete [.switch switch]
  | _, none, _ => .complete [.malformed]

/-- What an argument is. A dash by itself is no option. -/
def Argument.ofText : Text → Argument
  | ['-', '-'] => .endOfOptions
  | '-' :: '-' :: long => ofLong long
  | '-' :: letter :: letters => ofLetters (letter :: letters)
  | text => .input text

/-- Whether an argument may be the value of the option before it. -/
def isSeparateValue : Text → Bool
  | '-' :: _ :: _ => false
  | _ => true

/-- The items of some arguments. -/
def items : List Text → List Item
  | [] => []
  | argument :: rest =>
    match Argument.ofText argument with
    | .input text => .input text :: items rest
    | .complete found => found ++ items rest
    | .endOfOptions => rest.map .input
    | .awaiting found option =>
      found ++
        match rest with
        | [] => [.malformed]
        | value :: rest =>
          if isSeparateValue value then .value option value :: items rest else [.malformed]

end ApiReference.Command
