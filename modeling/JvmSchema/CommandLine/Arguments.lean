import JvmSchema.CommandLine.Help
import JvmSchema.Run
import JvmSchema.Text.Plain

/-!
# Command-line arguments

Arguments are read from left to right. An option that takes a value takes the next argument, unless
that looks like an option itself; the option is settled only when the argument after its value is
read, so a fault in that argument's name comes first. After `--` every argument is a descriptor.

`--config` may stand before the command and after it; the one after wins.
-/

set_option autoImplicit false
set_option relaxedAutoImplicit false

namespace JvmSchema.CommandLine

/-- The options with a value. -/
inductive Setting
  | config
  | types
  deriving DecidableEq, Repr

/-- The options without a value. -/
inductive Flag
  | noJdk
  | json
  | help
  | version
  deriving DecidableEq, Repr

/-- An option as usage messages write it. -/
def Setting.usage : Setting → String
  | .config => "--config <CONFIG>"
  | .types => "--types <FILE>"

/-- An option as usage messages write it. -/
def Flag.usage : Flag → String
  | .noJdk => "--no-jdk"
  | .json => "--json"
  | .help => "--help"
  | .version => "--version"

/-- A fault in the arguments. -/
inductive UsageError
  | noArguments
  | missingCommand
  | unknownCommand (name : String)
  | unexpectedArgument (argument : String)
  | unexpectedValue (value : String) (flag : Flag)
  | missingValue (setting : Setting)
  | repeated (usage : String)
  | missingDescriptors
  deriving DecidableEq, Repr

/-- The first line of what is said about a fault. An argument stands in it without what a terminal
would obey. -/
def UsageError.message : UsageError → String
  | .noArguments => HelpTopic.program.text
  | .missingCommand => "error: 'schemakind' requires a subcommand but one was not provided\n"
  | .unknownCommand name => "error: unrecognized subcommand '" ++ Text.plain name ++ "'\n"
  | .unexpectedArgument argument =>
    "error: unexpected argument '" ++ Text.plain argument ++ "' found\n"
  | .unexpectedValue value flag =>
    "error: unexpected value '" ++ Text.plain value ++ "' for '" ++ flag.usage ++
      "' found; no more were expected\n"
  | .missingValue setting =>
    "error: a value is required for '" ++ setting.usage ++ "' but none was supplied\n"
  | .repeated usage => "error: the argument '" ++ usage ++ "' cannot be used multiple times\n"
  | .missingDescriptors => "error: the following required arguments were not provided:\n"

/-- Why reading ends before a run: a fault, or a question that the program answers itself. -/
inductive Stop
  | fault (error : UsageError)
  | help (topic : HelpTopic)
  | version
  deriving DecidableEq, Repr

/-- The places where options may stand, with the options known there. -/
inductive Level
  | program
  | classify
  deriving DecidableEq, Repr

namespace Level

def settings : Level → List (String × Setting)
  | .program => [("config", .config)]
  | .classify => [("config", .config), ("types", .types)]

def flags : Level → List (String × Flag)
  | .program => [("help", .help), ("version", .version)]
  | .classify => [("no-jdk", .noJdk), ("json", .json), ("help", .help)]

/-- The options of one letter. -/
def letters : Level → List (Char × Flag)
  | .program => [('h', .help), ('V', .version)]
  | .classify => [('h', .help)]

def topic : Level → HelpTopic
  | .program => .program
  | .classify => .classify

end Level

/-- What has been read. `pending` is the last option with a value while it is not settled. -/
structure Gathered where
  config : Option String := none
  types : List String := []
  noJdk : Bool := false
  json : Bool := false
  descriptors : List String := []
  pending : Option (Setting × Option String) := none
  literal : Bool := false
  deriving DecidableEq, Repr

namespace Gathered

/-- Stops at a fault. -/
def fault {α : Type} (error : UsageError) : Except Stop α :=
  .error (.fault error)

/-- Takes an option with its value. -/
def set (gathered : Gathered) (setting : Setting) (value : String) : Except Stop Gathered :=
  match setting with
  | .config =>
    if gathered.config.isSome then fault (.repeated setting.usage)
    else if value = "" then fault (.missingValue setting)
    else .ok { gathered with config := some value }
  | .types =>
    if value = "" then fault (.missingValue setting)
    else .ok { gathered with types := gathered.types ++ [value] }

/-- Settles the option that is pending. -/
def settle (gathered : Gathered) : Except Stop Gathered :=
  match gathered.pending with
  | none => .ok gathered
  | some (setting, none) => fault (.missingValue setting)
  | some (setting, some value) => set { gathered with pending := none } setting value

/-- Takes an option without value. -/
def raise (gathered : Gathered) (level : Level) (flag : Flag) : Except Stop Gathered := do
  let gathered ← gathered.settle
  match flag with
  | .noJdk =>
    if gathered.noJdk then fault (.repeated flag.usage) else return { gathered with noJdk := true }
  | .json =>
    if gathered.json then fault (.repeated flag.usage) else return { gathered with json := true }
  | .help => .error (.help level.topic)
  | .version => .error .version

/-- Takes an argument `--name` or `--name=value`. -/
def long (gathered : Gathered) (level : Level) (name : String) (value? : Option String) :
    Except Stop Gathered :=
  match level.settings.lookup name, level.flags.lookup name, value? with
  | some setting, _, none => do
    return { ← gathered.settle with pending := some (setting, none) }
  | some setting, _, some value => do (← gathered.settle).set setting value
  | none, some flag, none => gathered.raise level flag
  | none, some flag, some value => fault (.unexpectedValue value flag)
  | none, none, _ => fault (.unexpectedArgument ("--" ++ name))

/-- Takes an argument of a hyphen and a letter. -/
def short (gathered : Gathered) (level : Level) (letter : Char) : Except Stop Gathered :=
  match level.letters.lookup letter with
  | some flag => gathered.raise level flag
  | none => fault (.unexpectedArgument (String.ofList ['-', letter]))

/-- Takes a descriptor. -/
def addDescriptor (gathered : Gathered) (descriptor : String) : Except Stop Gathered := do
  let gathered ← gathered.settle
  return { gathered with descriptors := gathered.descriptors ++ [descriptor] }

end Gathered

/-- The parts of an argument. -/
inductive Argument
  | escape
  | long (name : String) (value? : Option String)
  | short (letter : Char)
  | plain
  deriving DecidableEq, Repr

/-- Takes an argument apart. A hyphen alone is plain. -/
def Argument.ofString (text : String) : Argument :=
  match text.toList with
  | ['-', '-'] => .escape
  | '-' :: '-' :: rest =>
    let name := String.ofList (rest.takeWhile (· ≠ '='))
    match rest.dropWhile (· ≠ '=') with
    | [] => .long name none
    | _ :: value => .long name (some (String.ofList value))
  | '-' :: letter :: _ => .short letter
  | _ => .plain

namespace Gathered

/-- Whether the next plain argument is the value of an option. -/
def wantsValue (gathered : Gathered) : Option Setting :=
  match gathered.pending with
  | some (setting, none) => some setting
  | _ => none

/-- Takes one argument after the command. -/
def take (gathered : Gathered) (argument : String) : Except Stop Gathered :=
  if gathered.literal then gathered.addDescriptor argument
  else
    match Argument.ofString argument with
    | .escape => .ok { gathered with literal := true }
    | .long name value? => gathered.long .classify name value?
    | .short letter => gathered.short .classify letter
    | .plain =>
      match gathered.wantsValue with
      | some setting => .ok { gathered with pending := some (setting, some argument) }
      | none => gathered.addDescriptor argument

/-- The arguments after the command, as a run of it. -/
def ofArguments (arguments : List String) : Except Stop Gathered := do
  let gathered ← (← arguments.foldlM take {}).settle
  if gathered.descriptors.isEmpty then fault .missingDescriptors else return gathered

end Gathered

/-- The topic that a list of commands leads to. -/
def helpOn : List String → Stop
  | [] => .help .program
  | command :: rest =>
    if command = "classify" then
      match rest with
      | [] => .help .classify
      | name :: _ => .fault (.unknownCommand name)
    else if command = "help" then
      match rest with
      | [] => .help .help
      | name :: _ => .fault (.unknownCommand name)
    else .fault (.unknownCommand command)

/-- The names of the commands. -/
def commands : List String := ["classify", "help"]

/-- The run that the arguments of the command `classify` ask for. -/
def Gathered.options (outer inner : Gathered) : Options where
  descriptors := inner.descriptors
  types := inner.types
  noJdk := inner.noJdk
  config := inner.config.or outer.config
  form := if inner.json then .json else .text

/-- Reads arguments up to the command and after it. -/
def read (outer : Gathered) : List String → Except Stop Options
  | [] => do
    let outer ← outer.settle
    if outer.config.isNone then .error (.fault .noArguments) else .error (.fault .missingCommand)
  | argument :: rest =>
    if outer.literal then
      if argument ∈ commands then .error (.fault (.unexpectedArgument argument))
      else .error (.fault (.unknownCommand argument))
    else
      match outer.wantsValue, Argument.ofString argument with
      | _, .escape => read { outer with literal := true } rest
      | _, .long name value? => do read (← outer.long .program name value?) rest
      | _, .short letter => do read (← outer.short .program letter) rest
      | some setting, .plain => read { outer with pending := some (setting, some argument) } rest
      | none, .plain =>
        if argument = "classify" then do
          let inner ← Gathered.ofArguments rest
          return (← outer.settle).options inner
        else if argument = "help" then .error (helpOn rest)
        else .error (.fault (.unknownCommand argument))

/-- The run that the arguments ask for. -/
def parse (arguments : List String) : Except Stop Options :=
  read {} arguments

end JvmSchema.CommandLine
