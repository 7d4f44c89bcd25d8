/-!
# Switches

A switch is given by its long name or, if it has one, by a letter.  Some
switches take a value, and some of those only values from a list.
-/

namespace QueryLint

/-- The switches of the command line. -/
inductive Switch where
  | config
  | createConfig
  | force
  | printConfig
  | listPlugins
  | version
  | plugin
  | excludePlugin
  | maxParallel
  | logLevel
  | logFormat
  | logFile
  | color
  | noColor
  | help
  deriving DecidableEq, Repr, Inhabited

namespace Switch

/-- Every switch, in the order of the help text. -/
def all : List Switch :=
  [config, createConfig, force, printConfig, listPlugins, version, plugin,
    excludePlugin, maxParallel, logLevel, logFormat, logFile, color, noColor,
    help]

def letter? : Switch → Option Char
  | config => some 'c'
  | createConfig => some 'i'
  | force => some 'f'
  | printConfig => some 'p'
  | listPlugins => some 'l'
  | version => some 'v'
  | maxParallel => some 'j'
  | help => some 'h'
  | _ => none

def name : Switch → String
  | config => "config"
  | createConfig => "init"
  | force => "force"
  | printConfig => "print-config"
  | listPlugins => "list-plugins"
  | version => "version"
  | plugin => "plugin"
  | excludePlugin => "exclude-plugin"
  | maxParallel => "max-parallel"
  | logLevel => "log-level"
  | logFormat => "log-format"
  | logFile => "log-file"
  | color => "color"
  | noColor => "no-color"
  | help => "help"

/-- What the help text calls the value of the switch, if it takes one. -/
def valueName? : Switch → Option String
  | config => some "FILE"
  | plugin => some "NAMES"
  | excludePlugin => some "NAMES"
  | maxParallel => some "N"
  | logLevel => some "LEVEL"
  | logFormat => some "FORMAT"
  | logFile => some "FILE"
  | _ => none

def takesValue (switch : Switch) : Bool :=
  switch.valueName?.isSome

/-- The switch may be given several times, each time with more names. -/
def repeats : Switch → Bool
  | plugin => true
  | excludePlugin => true
  | _ => false

def purpose : Switch → String
  | config => "Configuration file path"
  | createConfig => "Write a default configuration file"
  | force => "Overwrite an existing configuration file (with --init)"
  | printConfig => "Print the configuration file in use"
  | listPlugins => "List discovered plugins"
  | version => "Print version information"
  | plugin => "Plugins to activate*"
  | excludePlugin => "Plugins to exclude from discovery*"
  | maxParallel => "Maximum number of units staged in parallel"
  | logLevel =>
      "Log level [possible values: trace, debug, info, warn, error, off]"
  | logFormat => "Log output format [possible values: text, ext, json]"
  | logFile => "Log file path (use 'none' to disable file logging)"
  | color => "Force coloured output"
  | noColor => "Disable coloured output"
  | help => "Print help"

def ofLetter? (letter : Char) : Option Switch :=
  all.find? fun switch => switch.letter? == some letter

def ofName? (name : String) : Option Switch :=
  all.find? fun switch => switch.name == name

def label (switch : Switch) : String :=
  "--" ++ switch.name

/-- How the switch is given: its letter, its long name and its value. -/
def form (switch : Switch) : String :=
  let letter :=
    match switch.letter? with
    | some letter => s!"-{letter}, "
    | none => "    "
  let value :=
    match switch.valueName? with
    | some name => s!" <{name}>"
    | none => ""
  letter ++ switch.label ++ value

end Switch

def fillTo (width : Nat) (text : String) : String :=
  text ++ String.ofList (List.replicate (width - text.length) ' ')

def helpText : String :=
  let width := (Switch.all.map fun switch => switch.form.length).foldl max 0
  let lines := Switch.all.map fun switch =>
    "  " ++ fillTo width switch.form ++ "  " ++ switch.purpose ++ "\n"
  "Lint SQL files and queries\n\n" ++
    "Usage: sqllint [OPTIONS] [INPUTS]...\n\n" ++
    "Arguments:\n" ++
    "  [INPUTS]...  SQL files or literal queries ('|' separates queries)\n\n" ++
    "Options:\n" ++ String.join lines ++ "\n" ++
    " * can be specified multiple times or as a comma-separated list\n"

end QueryLint
