import QueryLint.Command.Options
import QueryLint.Config.Error
import QueryLint.Ordered

/-!
# Settings of a configuration file

A configuration table adds to options: a value that the command line gives
stays, names are added behind those of the command line, and rules replace
those of the same name.  Settings are taken in a fixed order up to the first
that is not accepted, and those before it stay.
-/

namespace QueryLint

/-- Options after settings, and the setting that was not accepted, if any. -/
structure Configured where
  options : Options
  error? : Option SettingError
  deriving DecidableEq, Repr, Inhabited

namespace Configured

/-- Takes one more setting, unless one was not accepted. -/
def andThen (configured : Configured) (take : Options → Configured) :
    Configured :=
  match configured.error? with
  | none => take configured.options
  | some _ => configured

end Configured

namespace Options

/-- The options with a setting that may be missing or wrong. -/
def withSetting (options : Options) (setting : Except SettingError (Option α))
    (add : α → Options) : Configured :=
  match setting with
  | .error error => ⟨options, some error⟩
  | .ok none => ⟨options, none⟩
  | .ok (some value) => ⟨add value, none⟩

def textSetting (table : Toml.Table) (key : String) :
    Except SettingError (Option String) :=
  match Ordered.find? key table with
  | none => .ok none
  | some value =>
      match value.asText? with
      | some text => .ok (some text)
      | none => .error (.notText key)

def levelSetting (table : Toml.Table) :
    Except SettingError (Option Log.Threshold) :=
  match textSetting table "log-level" with
  | .error error => .error error
  | .ok none => .ok none
  | .ok (some text) =>
      match Log.Threshold.ofAnyCase? text with
      | some level => .ok (some level)
      | none => .error (.unknownLevel text)

def layoutSetting (table : Toml.Table) :
    Except SettingError (Option Log.Layout) :=
  match textSetting table "log-format" with
  | .error error => .error error
  | .ok none => .ok none
  | .ok (some text) =>
      match Log.Layout.ofAnyCase? text with
      | some layout => .ok (some layout)
      | none => .error (.unknownFormat text)

def colorSetting (table : Toml.Table) : Except SettingError (Option Bool) :=
  match Ordered.find? "color" table with
  | none => .ok none
  | some value =>
      match value.asFlag? with
      | some flag => .ok (some flag)
      | none => .error (.notFlag "color")

def parallelSetting (table : Toml.Table) : Except SettingError (Option Nat) :=
  match Ordered.find? "max-parallel" table with
  | none => .ok none
  | some value =>
      match value.asInteger? with
      | some number =>
          if 0 < number then .ok (some number.toNat)
          else .error (.notPositive "max-parallel")
      | none => .error (.notPositive "max-parallel")

/-- The texts of a list in front of the first entry that is none, and the error
of that entry. -/
def listedTexts (key : String) :
    List Toml.Value → List String × Option SettingError
  | [] => ([], none)
  | value :: rest =>
      match value.asText? with
      | none => ([], some (.entryNotText key))
      | some text =>
          let (texts, error?) := listedTexts key rest
          (text :: texts, error?)

/-- The texts under a key that holds a text or a list of texts. -/
def namesSetting (table : Toml.Table) (key : String) :
    List String × Option SettingError :=
  match Ordered.find? key table with
  | none => ([], none)
  | some (.text text) => ([text], none)
  | some (.list values) => listedTexts key values
  | some _ => ([], some (.notTextOrList key))

/-- Puts severities in front of the first that is no text under the names of
their rules. -/
def withSeverities (options : Options) : List (String × Toml.Value) → Configured
  | [] => ⟨options, none⟩
  | (rule, value) :: rest =>
      match value.asText? with
      | none => ⟨options, some (.severityNotText rule)⟩
      | some severity =>
          withSeverities
            { options with rules := Ordered.put rule severity options.rules }
            rest

def withRules (table : Toml.Table) (options : Options) : Configured :=
  match Ordered.find? "rules" table with
  | none => ⟨options, none⟩
  | some (.table severities) => options.withSeverities severities
  | some _ => ⟨options, some (.notTable "rules")⟩

def configure (options : Options) (table : Toml.Table) : Configured :=
  let start : Configured := ⟨options, none⟩
  start
    |>.andThen (fun options =>
      options.withSetting (levelSetting table) fun level =>
        { options with logLevel := options.logLevel <|> some level })
    |>.andThen (fun options =>
      options.withSetting (layoutSetting table) fun layout =>
        { options with logLayout := options.logLayout <|> some layout })
    |>.andThen (fun options =>
      options.withSetting (textSetting table "log-file") fun text =>
        { options with logFile := options.logFile <|> namedFile? text })
    |>.andThen (fun options =>
      options.withSetting (colorSetting table) fun color =>
        { options with color := some color })
    |>.andThen (fun options =>
      options.withSetting (parallelSetting table) fun number =>
        { options with maxParallel := options.maxParallel <|> some number })
    |>.andThen (fun options =>
      let (names, error?) := namesSetting table "plugins"
      ⟨{ options with plugins := options.plugins ++ names }, error?⟩)
    |>.andThen (fun options =>
      let (names, error?) := namesSetting table "exclude-plugin"
      ⟨{ options with exclusions := options.exclusions ++ names }, error?⟩)
    |>.andThen (withRules table)

/-- The keys that name settings. -/
def settingKeys : List String :=
  ["log-level", "log-format", "log-file", "color", "max-parallel", "plugins",
    "exclude-plugin", "rules"]

/-- The records of keys that name no setting. -/
def unknownKeyRecords (table : Toml.Table) : List Log.Record :=
  ((Ordered.keys table).filter fun key => !settingKeys.contains key).map
    fun key =>
      ⟨.warn, "sqllint::app::cli::config",
        s!"Ignoring unknown configuration key '{key}'"⟩

def configureRecords (options : Options) (table : Toml.Table) :
    List Log.Record :=
  match (options.configure table).error? with
  | none => unknownKeyRecords table
  | some _ => []

end Options

end QueryLint
