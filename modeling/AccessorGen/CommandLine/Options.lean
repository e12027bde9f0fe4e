set_option autoImplicit false

/-!
# Command line: commands and options

The program has two commands and options of its own.  The options for the
configuration, the format and the verbosity can stand before or after the
command; a value that is given after it counts more, unless it comes from a
weaker source.
-/

namespace AccessorGen.CommandLine

/-- How diagnostics are written. -/
inductive Format where
  | text
  | json
  deriving DecidableEq, Repr, Inhabited

namespace Format

/-- The name of the format. -/
def name : Format → String
  | text => "text"
  | json => "json"

/-- The format of that name. -/
def ofName? (name : String) : Option Format := [text, json].find? (·.name == name)

end Format

/-- What the program is asked to do. -/
inductive Command where
  /-- Write every unit to a directory. -/
  | generate (snapshot out : String)
  /-- Report the diagnostics only. -/
  | check (snapshot : String)
  deriving DecidableEq, Repr, Inhabited

/-- A complete command line. -/
structure Invocation where
  config : Option String
  format : Format
  verbose : Bool
  command : Command
  deriving DecidableEq, Repr, Inhabited

/-- Why a command line is not carried out. -/
inductive UsageError where
  /-- There are no arguments at all. -/
  | nothingGiven
  | helpRequested
  | versionRequested
  | missingCommand
  | missingOption
  | unknownCommand
  | unknownArgument
  /-- An option has no value or one that it does not take. -/
  | invalidValue
  /-- An option is given twice at one level. -/
  | repeatedOption
  /-- An option that takes no value is given one. -/
  | unexpectedValue
  deriving DecidableEq, Repr, Inhabited

namespace UsageError

/-- The error in words. -/
def text : UsageError → String
  | nothingGiven => "nothing to do"
  | helpRequested => "help requested"
  | versionRequested => "version requested"
  | missingCommand => "a command is required"
  | missingOption => "a required option is missing"
  | unknownCommand => "unknown command"
  | unknownArgument => "unknown argument"
  | invalidValue => "invalid value for an option"
  | repeatedOption => "an option is given twice"
  | unexpectedValue => "an option that takes no value is given one"

end UsageError

/-- The options by what they are for. -/
inductive Switch where
  | config
  | format
  | verbose
  | snapshot
  | out
  | help
  | version
  deriving DecidableEq, Repr, Inhabited

namespace Switch

/-- The name after two dashes. -/
def longName : Switch → String
  | config => "config"
  | format => "format"
  | verbose => "verbose"
  | snapshot => "snapshot"
  | out => "out"
  | help => "help"
  | version => "version"

/-- The letter after one dash, if there is one. -/
def letter? : Switch → Option Char
  | config => some 'c'
  | format => none
  | verbose => some 'v'
  | snapshot => some 's'
  | out => some 'o'
  | help => some 'h'
  | version => some 'V'

/-- The option needs a value. -/
def takesValue : Switch → Bool
  | config | format | snapshot | out => true
  | verbose | help | version => false

/-- The value is one that the option takes: a format has to be known, and a path
must not be empty. -/
def accepts (s : Switch) (value : String) : Bool :=
  match s with
  | format => (Format.ofName? value).isSome
  | _ => value != ""

end Switch

/-- Where options can stand: before the command or after it. -/
inductive Level where
  | top
  | generate
  | check
  deriving DecidableEq, Repr, Inhabited

namespace Level

/-- The options that are known at a level. -/
def switches : Level → List Switch
  | top => [.config, .format, .verbose, .help, .version]
  | generate => [.config, .format, .verbose, .snapshot, .out, .help]
  | check => [.config, .format, .verbose, .snapshot, .help]

/-- The option of that long name. -/
def ofLongName? (level : Level) (name : String) : Option Switch :=
  level.switches.find? (·.longName == name)

/-- The option of that letter. -/
def ofLetter? (level : Level) (letter : Char) : Option Switch :=
  level.switches.find? (·.letter? == some letter)

/-- What follows a word that names a command, or the request for help. -/
inductive Turn where
  | command (level : Level)
  | help
  deriving DecidableEq, Repr, Inhabited

/-- What a word that names a command turns to; after a command there are no
further ones. -/
def turn? (level : Level) (word : String) : Option Turn :=
  match level with
  | top =>
    if word = "generate" then some (.command generate)
    else if word = "check" then some (.command check)
    else if word = "help" then some .help
    else none
  | _ => none

end Level

end AccessorGen.CommandLine
