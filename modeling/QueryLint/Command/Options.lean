import QueryLint.Log.Filter
import QueryLint.Log.Layout
import QueryLint.Text.NameList

/-!
# Options

Options say what the tool is asked to do.  They come from the command line and
from the configuration file.
-/

namespace QueryLint

/-- What the tool is asked to do; rules are in ascending order of their
names. -/
structure Options where
  inputs : List String
  configFile : Option String
  createConfig : Bool
  force : Bool
  printConfig : Bool
  listPlugins : Bool
  version : Bool
  plugins : List String
  exclusions : List String
  maxParallel : Option Nat
  logLevel : Option Log.Threshold
  logLayout : Option Log.Layout
  logFile : Option String
  forceColor : Bool
  noColor : Bool
  color : Option Bool
  rules : List (String × String)
  deriving DecidableEq, Repr, Inhabited

/-- What the tool does, if it is asked for several things at once the first of
them. -/
inductive Request where
  | version
  | printConfig
  | createConfig
  | listPlugins
  | lint
  | usage
  deriving DecidableEq, Repr, Inhabited

def Request.name : Request → String
  | version => "Version"
  | printConfig => "PrintConfig"
  | createConfig => "Init"
  | listPlugins => "ListPlugins"
  | lint => "Lint"
  | usage => "Usage"

namespace Options

def unset : Options :=
  { inputs := [], configFile := none, createConfig := false, force := false
    printConfig := false, listPlugins := false, version := false, plugins := []
    exclusions := [], maxParallel := none, logLevel := none, logLayout := none
    logFile := none, forceColor := false, noColor := false, color := none,
      rules := [] }

/-- The text stands for no log file. -/
def namesNoFile (text : String) : Bool :=
  text == "-" || Text.sameIgnoringCase text.toList "none".toList

/-- The log file that a text names, if it names one. -/
def namedFile? (text : String) : Option String :=
  if namesNoFile text then none else some text

/-- Splits lists of names, and forgets a log file that is none. -/
def normalise (options : Options) : Options :=
  { options with
    plugins := nameList options.plugins
    exclusions := nameList options.exclusions
    logFile := options.logFile.bind namedFile? }

/-- Output is coloured; the command line decides before the configuration, and
otherwise colours are for terminals. -/
def useColor (options : Options) (isTerminal : Bool) : Bool :=
  if options.noColor then false
  else if options.forceColor then true
  else options.color.getD isTerminal

def request (options : Options) : Request :=
  if options.version then .version
  else if options.printConfig then .printConfig
  else if options.createConfig then .createConfig
  else if options.listPlugins then .listPlugins
  else if !options.inputs.isEmpty then .lint
  else .usage

end Options

end QueryLint
