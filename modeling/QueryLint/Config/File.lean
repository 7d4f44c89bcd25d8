import QueryLint.Config.Settings
import QueryLint.Files.Tree
import QueryLint.Rule.Basic

/-!
# The configuration file

The command line names the configuration file, or it stands in the user's home
folder.  Without one the options stay as they are.
-/

namespace QueryLint

def configTarget : String :=
  "sqllint::app::cli::config"

def configFileName : String :=
  ".sqllintrc.toml"

def FileTree.homeConfig? (files : FileTree) : Option String :=
  files.inHome configFileName

/-- The line that gives a rule its default severity. -/
def Rule.settingLine (rule : Rule) : String :=
  s!"{rule.name} = \"{rule.defaultSeverity.name}\"\n"

/-- The configuration file that is written on request. -/
def defaultConfig : String :=
  "# sqllint configuration\n" ++
    "\n" ++
    "# log-level = \"info\"\n" ++
    "# log-format = \"text\"\n" ++
    "# log-file = \"none\"\n" ++
    "# color = true\n" ++
    "# max-parallel = 8\n" ++
    "# plugins = [\"dump\"]\n" ++
    "# exclude-plugin = []\n" ++
    "\n" ++
    "[rules]\n" ++
    String.join (Rule.all.map Rule.settingLine)

/-- Writes the default configuration, over an existing file only if forced. -/
def FileTree.writeDefaultConfig (files : FileTree) (path : String)
    (force : Bool) :
    Except ConfigError FileTree :=
  if !force && files.has path then .error (.alreadyExists path)
  else
    match files.write path defaultConfig.toUTF8.toList with
    | .ok files => .ok files
    | .error reason => .error (.write path reason)

def writtenRecord (path : String) : Log.Record :=
  ⟨.info, configTarget, s!"Wrote default configuration to {path}"⟩

/-- What comes of loading the configuration file: the options with the settings
taken so far, the path of the file, and the records. -/
structure Loaded where
  options : Options
  result : Except ConfigError (Option String)
  records : List Log.Record

namespace Options

/-- The configuration file in use: the one that the command line names, or the
one of the home folder if it is a file. -/
def configPath? (options : Options) (files : FileTree) : Option String :=
  match options.configFile with
  | some path => some path
  | none => files.homeConfig?.filter files.isFile

def loadFrom (options : Options) (files : FileTree) (path : String) : Loaded :=
  if options.configFile.isSome && !files.has path then
    ⟨options, .error (.notFound path), []⟩
  else
    match files.readText path with
    | .error reason => ⟨options, .error (.read path reason), []⟩
    | .ok document =>
        match Toml.Table.ofText document with
        | .error reason => ⟨options, .error (.parse path reason), []⟩
        | .ok table =>
            let configured := options.configure table
            match configured.error? with
            | some reason =>
                ⟨configured.options, .error (.invalid path reason), []⟩
            | none =>
                ⟨configured.options.normalise, .ok (some path),
                  options.configureRecords table ++
                    [⟨.debug, configTarget,
                      s!"Loaded configuration from {path}"⟩]⟩

/-- Takes the settings of the configuration file in use. -/
def load (options : Options) (files : FileTree) : Loaded :=
  match options.configPath? files with
  | none =>
      ⟨options, .ok none,
        [⟨.debug, configTarget, "No configuration file; using defaults"⟩]⟩
  | some path => options.loadFrom files path

end Options

end QueryLint
