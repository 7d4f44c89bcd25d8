import QueryLint.Config.File

/-!
# What a valid table fills in

A table whose settings are all accepted fills in what the options leave open: a
value that the options have stays, names are added and rules replaced.
`Options.filledFrom` says so of all fields at once, and no other field is
touched.
-/

namespace QueryLint

/-- The value of a setting that is accepted and there. -/
def SettingError.value? {α : Type} : Except SettingError (Option α) → Option α
  | .ok value? => value?
  | .error _ => none

namespace Configured

/-- Unless a setting was not accepted, the options are the ones given. -/
def Reaches (configured : Configured) (options : Options) : Prop :=
  configured.error? = none → configured.options = options

variable {configured : Configured}

theorem Reaches.andThen {take : Options → Configured} {after : Options}
    (options : Options) (reaches : configured.Reaches options)
    (taken : (take options).Reaches after) :
    (configured.andThen take).Reaches after := by
  intro valid
  cases failed : configured.error? with
  | none =>
      rw [Configured.andThen, failed] at valid ⊢
      rw [reaches failed] at valid ⊢
      exact taken valid
  | some error =>
      rw [Configured.andThen, failed, failed] at valid
      cases valid

end Configured

theorem FileTree.has_of_readText {files : FileTree} {path text : String}
    (read : files.readText path = .ok text) : files.has path = true := by
  rw [readText, FileTree.read] at read
  rw [has]
  cases found : files.find path with
  | ok node => rfl
  | error error =>
      rw [found] at read
      cases read

namespace Options

open Configured (Reaches)

variable {α : Type} {options : Options} {table : Toml.Table}

theorem reaches_withSetting {setting : Except SettingError (Option α)}
    {add : α → Options} (fill : Option α → Options)
    (missing : fill none = options)
    (present : ∀ value, fill (some value) = add value) :
    (options.withSetting setting add).Reaches
      (fill (SettingError.value? setting)) := by
  intro valid
  match setting with
  | .error error => cases valid
  | .ok none => exact missing.symm
  | .ok (some value) => exact (present value).symm

/-- The rules with the severities in front of the first that is no text. -/
def putSeverities (rules : List (String × String)) :
    List (String × Toml.Value) → List (String × String)
  | [] => rules
  | (rule, value) :: rest =>
      match value.asText? with
      | none => rules
      | some severity => putSeverities (Ordered.put rule severity rules) rest

theorem options_withSeverities (options : Options)
    (entries : List (String × Toml.Value)) :
    (options.withSeverities entries).options =
      { options with rules := putSeverities options.rules entries } := by
  induction entries generalizing options with
  | nil => rfl
  | cons entry rest ih =>
      obtain ⟨rule, value⟩ := entry
      rw [withSeverities, putSeverities]
      cases value.asText? with
      | none => rfl
      | some severity => exact ih _

/-- The severities of a table's rules. -/
def tableSeverities (table : Toml.Table) : List (String × Toml.Value) :=
  match Ordered.find? "rules" table with
  | some (.table severities) => severities
  | _ => []

theorem options_withRules (table : Toml.Table) (options : Options) :
    (withRules table options).options =
      { options with
        rules := putSeverities options.rules (tableSeverities table) } := by
  rw [withRules, tableSeverities]
  match Ordered.find? "rules" table with
  | some (.table severities) => exact options_withSeverities options severities
  | none => rfl
  | some (.text _) => rfl
  | some (.integer _) => rfl
  | some (.float _) => rfl
  | some (.flag _) => rfl
  | some (.moment _) => rfl
  | some (.list _) => rfl

/-- The log file that a table names, if it names one. -/
def tableLogFile? (table : Toml.Table) : Option String :=
  (SettingError.value? (textSetting table "log-file")).bind namedFile?

/-- The options with the settings of a table. -/
def filledFrom (options : Options) (table : Toml.Table) : Options :=
  { options with
    logLevel := options.logLevel <|> SettingError.value? (levelSetting table)
    logLayout := options.logLayout <|> SettingError.value? (layoutSetting table)
    logFile := options.logFile <|> tableLogFile? table
    color := SettingError.value? (colorSetting table) <|> options.color
    maxParallel :=
      options.maxParallel <|> SettingError.value? (parallelSetting table)
    plugins := options.plugins ++ (namesSetting table "plugins").1
    exclusions := options.exclusions ++ (namesSetting table "exclude-plugin").1
    rules := putSeverities options.rules (tableSeverities table) }

/-- A valid table fills in what the options leave open, and nothing else. -/
theorem reaches_configure (options : Options) (table : Toml.Table) :
    (options.configure table).Reaches (options.filledFrom table) := by
  unfold configure
  let filled := options.filledFrom table
  let seven := { filled with rules := options.rules }
  let six := { seven with exclusions := options.exclusions }
  let five := { six with plugins := options.plugins }
  let four := { five with maxParallel := options.maxParallel }
  let three := { four with color := options.color }
  let two := { three with logFile := options.logFile }
  let one := { two with logLayout := options.logLayout }
  refine .andThen seven (.andThen six (.andThen five (.andThen four
    (.andThen three (.andThen two (.andThen one (.andThen options
      (fun _ => rfl) ?level) ?layout) ?file) ?color)
    ?parallel) ?plugins) ?exclusions) ?rules
  case rules => exact fun _ => options_withRules table seven
  case exclusions => exact fun _ => rfl
  case plugins => exact fun _ => rfl
  case parallel =>
      exact reaches_withSetting
        (fun number? =>
          { four with maxParallel := options.maxParallel <|> number? })
        (by simp [four]) fun _ => rfl
  case color =>
      exact reaches_withSetting
        (fun flag? => { three with color := flag? <|> options.color })
        (by simp [three]) fun _ => rfl
  case file =>
      exact reaches_withSetting
        (fun text? =>
          { two with logFile := options.logFile <|> text?.bind namedFile? })
        (by simp [two]) fun _ => rfl
  case layout =>
      exact reaches_withSetting
        (fun layout? => { one with logLayout := options.logLayout <|> layout? })
        (by simp [one]) fun _ => rfl
  case level =>
      exact reaches_withSetting
        (fun level? => { options with logLevel := options.logLevel <|> level? })
        (by simp) fun _ => rfl

/-- A configuration file that is loaded holds a valid table. -/
theorem exists_table_of_loadFrom {options : Options} {files : FileTree}
    {path : String} {path? : Option String}
    (loads : (options.loadFrom files path).result = .ok path?) :
    path? = some path ∧ ∃ document table,
      files.readText path = .ok document ∧
      Toml.Table.ofText document = .ok table ∧
      (options.configure table).error? = none ∧
      (options.loadFrom files path).options =
        (options.filledFrom table).normalise := by
  unfold loadFrom at loads ⊢
  split at loads
  · cases loads
  · next present =>
      rw [if_neg present]
      split at loads
      · cases loads
      · next document read =>
          split at loads
          · cases loads
          · next table parsed =>
              dsimp only at loads ⊢
              split at loads
              · cases loads
              · next valid =>
                  cases loads
                  refine ⟨rfl, document, table, read, parsed, valid, ?_⟩
                  rw [← reaches_configure options table valid]

theorem load_eq_loadFrom {options : Options} {path : String}
    (named : options.configFile = some path) (files : FileTree) :
    options.load files = options.loadFrom files path := by
  have found : options.configPath? files = some path := by
    rw [configPath?, named]
  rw [load, found]

/-- A valid table is loaded from the file that the options name. -/
theorem load_of_valid {options : Options} {files : FileTree}
    {path document : String} {table : Toml.Table}
    (named : options.configFile = some path)
    (read : files.readText path = .ok document)
    (parsed : Toml.Table.ofText document = .ok table)
    (valid : (options.configure table).error? = none) :
    (options.load files).result = .ok (some path) ∧
      (options.load files).options = (options.filledFrom table).normalise := by
  have present : ¬ (options.configFile.isSome && !files.has path) = true := by
    simp [FileTree.has_of_readText read]
  rw [load_eq_loadFrom named]
  simp only [loadFrom, if_neg present, read, parsed, valid,
    reaches_configure options table valid, and_self]

end Options

end QueryLint
