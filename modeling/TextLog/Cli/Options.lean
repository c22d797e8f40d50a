/-!
# Command Line Options

Reading the arguments of a command: options by name, and the rest by position.

A long option takes its value behind an equals sign or from the next argument;
a short one from the rest of its argument or from the next one, and short
options without a value can be written together. The value is taken as it is,
even if it looks like an option. A lone `--` ends the options. Some commands
stop at the first argument that is no option, because what follows belongs to
another command.

## Main definitions

* `OptionSpec`: An option that a command knows.
* `Arguments`: The arguments of a command, read.
* `Arguments.read`: Reads the arguments.
-/

namespace TextLog

namespace Cli

/-- An option: its names, the first of which stands for it, and whether it takes
    a value. -/
structure OptionSpec where
  names : List String
  takesValue : Bool

/-- The name that stands for an option. -/
def OptionSpec.key (o : OptionSpec) : String :=
  o.names.headD ""

/-- The option of a name. -/
def findOption (specs : List OptionSpec) (name : String) : Option OptionSpec :=
  specs.find? fun o => o.names.contains name

/-- Arguments as they were read: the options in order, each with its value, and
    the arguments by position. -/
structure Arguments where
  options : List (String × String)
  positional : List String

/-- What an argument says: options, and perhaps one that waits for its value in
    the next argument. -/
structure Said where
  options : List (String × String)
  waiting : Option String

/-- Name and value of an argument, split at its first equals sign. -/
def splitValue (arg : List Char) : String × Option String :=
  let name := String.ofList (arg.takeWhile (· != '='))
  match arg.dropWhile (· != '=') with
  | _ :: value => (name, some (String.ofList value))
  | [] => (name, none)

/-- Reads short options written together. -/
def readShort (specs : List OptionSpec) : List Char → Option Said
  | [] => some ⟨[], none⟩
  | c :: rest => do
    let spec ← findOption specs (String.ofList ['-', c])
    if spec.takesValue then
      if rest.isEmpty then return ⟨[], some spec.key⟩
      else return ⟨[(spec.key, String.ofList rest)], none⟩
    else
      let more ← readShort specs rest
      return ⟨(spec.key, "") :: more.options, more.waiting⟩

/-- A name of more than one letter. -/
def isLong (name : String) : Bool :=
  2 < name.length

/-- Reads an argument that starts with a dash. -/
def readOption (specs : List OptionSpec) (arg : String) : Option Said :=
  let (name, value) := splitValue arg.toList
  let found := if isLong name then findOption specs name else none
  match found, value with
  | some spec, some v => if spec.takesValue then some ⟨[(spec.key, v)], none⟩ else none
  | some spec, none =>
    some (if spec.takesValue then ⟨[], some spec.key⟩ else ⟨[(spec.key, "")], none⟩)
  | none, _ =>
    match arg.toList with
    | '-' :: '-' :: _ => none
    | _ :: letters => readShort specs letters
    | [] => none

/-- The argument is written like an option. -/
def looksLikeOption (arg : String) : Bool :=
  arg.toList.head? == some '-' && arg != "-"

/-- Reads arguments, given the option that waits for a value. -/
def readFrom (specs : List OptionSpec) (mixed : Bool) :
    Option String → List String → Option Arguments
  | none, [] => some ⟨[], []⟩
  | some _, [] => none
  -- The value is taken whatever it looks like.
  | some key, arg :: rest =>
    (readFrom specs mixed none rest).map fun r => ⟨(key, arg) :: r.options, r.positional⟩
  | none, arg :: rest =>
    if arg = "--" then some ⟨[], rest⟩
    else if looksLikeOption arg then
      (readOption specs arg).bind fun said =>
        (readFrom specs mixed said.waiting rest).map fun r =>
          ⟨said.options ++ r.options, r.positional⟩
    else if mixed then
      (readFrom specs mixed none rest).map fun r => ⟨r.options, arg :: r.positional⟩
    else some ⟨[], arg :: rest⟩

namespace Arguments

/-- Reads the arguments of a command. If options and positions are not `mixed`,
    everything from the first position on is left to another command. -/
def read (specs : List OptionSpec) (mixed : Bool) (args : List String) : Option Arguments :=
  readFrom specs mixed none args

/-- An option was given. -/
def has (a : Arguments) (key : String) : Bool :=
  a.options.any (·.1 == key)

/-- The last value that was given to an option. -/
def value? (a : Arguments) (key : String) : Option String :=
  a.options.reverse.lookup key

/-- All values that were given to an option. -/
def values (a : Arguments) (key : String) : List String :=
  (a.options.filter (·.1 == key)).map Prod.snd

/-- The one of two opposite options that was given last: true for the first. -/
def choice? (a : Arguments) (yes no : String) : Option Bool :=
  (a.options.reverse.find? fun p => p.1 == yes || p.1 == no).map fun p => p.1 == yes

end Arguments

end Cli

end TextLog
