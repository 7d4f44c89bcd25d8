import QueryLint.Config.Error

/-!
# What users learn of errors

An error is frank if it has a wording for the user exactly when the user can
mend it; that wording is then what the user and the log are shown, whichever
operation fails.  All errors are frank but three about configuration files: one
that is missing, one that is no document, and one that is in the way.
-/

namespace QueryLint

section

variable {ε : Type} [Diagnosed ε]

/-- The log begins with the text, as the reason for which everything ends. -/
def LogsFatally (error : ε) (operation text : String) : Prop :=
  ∃ fatal details, diagnosisRecords error operation = fatal :: details ∧
    fatal.level = .error ∧ fatal.message = s!"FATAL: {text}"

/-- Whichever operation fails, the user and the log are shown the wording. -/
def ShowsAlways (error : ε) (wording : String) : Prop :=
  ∀ operation, userFacing error operation = wording ∧
    LogsFatally error operation wording

/-- The user and the log are shown no more than the operation that fails. -/
def ShowsOperation (error : ε) : Prop :=
  ∀ operation, userFacing error operation = s!"{operation} failed" ∧
    LogsFatally error operation operation

/-- The error has a wording for the user exactly if the user can mend it, and
then shows it. -/
structure Frank (error : ε) : Prop where
  agrees : Diagnosed.actionable error = true ↔
    (Diagnosed.userMessage? error).isSome = true
  shows : Diagnosed.actionable error = true →
    ∃ wording, Diagnosed.userMessage? error = some wording ∧
      ShowsAlways error wording

variable {error : ε}

theorem showsAlways_of_mendable {wording : String}
    (mendable : mendable? error = some wording) :
    ShowsAlways error wording := by
  intro operation
  rw [userFacing, mendable]
  refine ⟨rfl, _, _, rfl, rfl, ?_⟩
  rw [mendable]
  rfl

theorem showsOperation_of_not_mendable (mendable : mendable? error = none) :
    ShowsOperation error := by
  intro operation
  rw [userFacing, mendable]
  refine ⟨rfl, _, _, rfl, rfl, ?_⟩
  rw [mendable]
  rfl

theorem frank_of_agrees
    (agrees : Diagnosed.actionable error = true ↔
      (Diagnosed.userMessage? error).isSome = true) :
    Frank error := by
  refine ⟨agrees, fun actionable => ?_⟩
  obtain ⟨wording, worded⟩ := Option.isSome_iff_exists.mp (agrees.mp actionable)
  refine ⟨wording, worded, showsAlways_of_mendable ?_⟩
  rw [mendable?, worded]
  exact if_pos actionable

end

/-- The user can mend the error, and is given no wording for it. -/
def ConfigError.IsMute : ConfigError → Prop
  | notFound _ | parse .. | alreadyExists _ => True
  | _ => False

theorem SettingError.frank (error : SettingError) : Frank error :=
  frank_of_agrees ⟨fun _ => rfl, fun _ => rfl⟩

theorem RuleError.frank (error : RuleError) : Frank error := by
  apply frank_of_agrees
  cases error with
  | unknownRule name => exact ⟨fun _ => rfl, fun _ => rfl⟩
  | invalidSeverity rule value => exact ⟨fun _ => rfl, fun _ => rfl⟩
  | evaluation rule unit cause => exact ⟨nofun, nofun⟩

theorem PluginError.frank (error : PluginError) : Frank error := by
  apply frank_of_agrees
  cases error with
  | versionIncompatible explanation => exact ⟨fun _ => rfl, fun _ => rfl⟩
  | _ => exact ⟨nofun, nofun⟩

theorem RunError.frank (error : RunError) : Frank error :=
  frank_of_agrees ⟨nofun, nofun⟩

theorem ConfigError.frank_iff (error : ConfigError) :
    Frank error ↔ ¬ error.IsMute := by
  constructor
  · intro frank mute
    have agrees := frank.agrees
    cases error with
    | notFound path => cases agrees.mp rfl
    | parse path reason => cases agrees.mp rfl
    | alreadyExists path => cases agrees.mp rfl
    | _ => exact mute
  · intro spoken
    apply frank_of_agrees
    cases error with
    | invalid path reason => exact ⟨fun _ => rfl, fun _ => rfl⟩
    | noHomeDirectory => exact ⟨fun _ => rfl, fun _ => rfl⟩
    | read path reason => exact ⟨nofun, nofun⟩
    | write path reason => exact ⟨nofun, nofun⟩
    | _ => exact absurd trivial spoken

theorem ConfigError.showsOperation {error : ConfigError} (mute : error.IsMute) :
    ShowsOperation error := by
  apply showsOperation_of_not_mendable
  cases error with
  | notFound path => rfl
  | parse path reason => rfl
  | alreadyExists path => rfl
  | _ => cases mute

/-- Every error of a setting, a rule, a plugin or a run is frank, and so is
every error about a configuration file unless it is mute.  Of a mute one, the
user and the log are shown the operation alone. -/
theorem frank_unless_mute (setting : SettingError) (rule : RuleError)
    (plugin : PluginError) (run : RunError) (config : ConfigError) :
    Frank setting ∧ Frank rule ∧ Frank plugin ∧ Frank run ∧
      (Frank config ↔ ¬ config.IsMute) ∧
      (config.IsMute → ShowsOperation config) :=
  ⟨setting.frank, rule.frank, plugin.frank, run.frank, config.frank_iff,
    ConfigError.showsOperation⟩

/-- A user who could remove the file that is in the way is not told about it. -/
theorem existing_config_is_not_told :
    let error := ConfigError.alreadyExists "c.toml"
    Diagnosed.actionable error = true ∧
      (Diagnosed.userMessage? error).isSome = false ∧
      userFacing error "Configuration initialisation" =
        "Configuration initialisation failed" ∧
      LogsFatally error "Configuration initialisation"
        "Configuration initialisation" := by
  refine ⟨rfl, rfl, by decide +kernel, _, _, rfl, rfl, by decide +kernel⟩

end QueryLint
