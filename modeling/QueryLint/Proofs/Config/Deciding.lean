import QueryLint.Proofs.Config.Reading

/-!
# What a table decides

Whether a table is accepted, and what is wrong with it otherwise, does not
depend on the options to which it is applied: the first key of `settingKeys`
whose value has a fault decides, also if the options have a value of their own.
Of an accepted table the options take what they leave open, and the color and
the severities in any case.
-/

namespace QueryLint

theorem Configured.error?_andThen {configured : Configured}
    {take : Options → Configured} {fault? : Option SettingError}
    (taken : ∀ options, (take options).error? = fault?) :
    (configured.andThen take).error? = configured.error?.or fault? := by
  cases failed : configured.error? with
  | none => simp [Configured.andThen, failed, taken]
  | some error => simp [Configured.andThen, failed]

namespace Options

open Toml.Value (Lists IsNames IsTexts)

variable {α : Type} {options : Options} {table : Toml.Table}

theorem error?_withSetting (options : Options)
    (setting : Except SettingError (Option α)) (add : α → Options) :
    (options.withSetting setting add).error? = SettingError.fault? setting := by
  rcases setting with error | _ | value <;> rfl

/-- The fault of the first key whose value has one. -/
def tableFault? (table : Toml.Table) : Option SettingError :=
  settingKeys.findSome? fun key =>
    (Ordered.find? key table).bind fun value => value.fault? key

theorem findSome?_cons_eq_or (find : String → Option α) (key : String)
    (keys : List String) :
    (key :: keys).findSome? find = (find key).or (keys.findSome? find) := by
  rw [List.findSome?_cons]
  cases find key <;> rfl

theorem error?_configure (options : Options) (table : Toml.Table) :
    (options.configure table).error? = tableFault? table := by
  have level := (reads_levelSetting table).fault
  have layout := (reads_layoutSetting table).fault
  have logFile := (reads_logFile table).fault
  have color := (reads_colorSetting table).fault
  have parallel := (reads_parallelSetting table).fault
  have plugins := snd_namesSetting table "plugins"
  have exclusions := snd_namesSetting table "exclude-plugin"
  rw [configure, Configured.error?_andThen (error?_withRules table),
    Configured.error?_andThen fun _ => exclusions,
    Configured.error?_andThen fun _ => plugins,
    Configured.error?_andThen fun _ =>
      (error?_withSetting _ _ _).trans parallel,
    Configured.error?_andThen fun _ => (error?_withSetting _ _ _).trans color,
    Configured.error?_andThen fun _ => (error?_withSetting _ _ _).trans logFile,
    Configured.error?_andThen fun _ => (error?_withSetting _ _ _).trans layout,
    Configured.error?_andThen fun _ => (error?_withSetting _ _ _).trans level]
  simp only [tableFault?, settingKeys, findSome?_cons_eq_or, List.findSome?_nil,
    Option.or_assoc, Option.or_none, Option.none_or]
  rfl

theorem Reads.bind_eq_none_iff {setting : Except SettingError (Option α)}
    {value? : Option Toml.Value} {key : String} {holds : Toml.Value → α → Prop}
    (reads : Reads setting value? key holds) :
    (value?.bind fun value => value.fault? key) = none ↔
      ∃ read?, Option.Rel holds value? read? := by
  simp only [← reads.fault, ← reads.eq_ok_iff]
  cases setting with
  | ok read? => exact iff_of_true rfl ⟨read?, rfl⟩
  | error error => exact iff_of_false nofun nofun

/-- A table without a fault stands for settings, and no other table does. -/
theorem tableFault?_eq_none_iff :
    tableFault? table = none ↔ ∃ settings :
      Settings, settings.SaidBy table := by
  have names (key : String) := Toml.Value.bind_eq_none_iff_exists_lists
    (fun value => @Toml.Value.namesFault?_eq_none_iff key value)
    (Ordered.find? key table)
  have texts (key : String) := Toml.Value.bind_eq_none_iff_exists_lists
    (fun value => @Toml.Value.textsFault?_eq_none_iff key value)
    (Ordered.find? key table)
  have faultless : tableFault? table = none ↔ ∀ key ∈ settingKeys,
      ((Ordered.find? key table).bind fun value => value.fault? key) = none :=
    List.findSome?_eq_none_iff
  simp only [settingKeys, List.forall_mem_cons, List.not_mem_nil,
    IsEmpty.forall_iff, implies_true, and_true] at faultless
  rw [faultless, (reads_levelSetting table).bind_eq_none_iff,
    (reads_layoutSetting table).bind_eq_none_iff,
    (reads_logFile table).bind_eq_none_iff,
    (reads_colorSetting table).bind_eq_none_iff,
    (reads_parallelSetting table).bind_eq_none_iff]
  constructor
  · rintro ⟨⟨level?, level⟩, ⟨layout?, layout⟩, ⟨logFile?, logFile⟩,
      ⟨color?, color⟩, ⟨maxParallel?, maxParallel⟩, plugins, exclusions, rules⟩
    obtain ⟨plugins, listsPlugins⟩ := (names "plugins").mp plugins
    obtain ⟨exclusions, listsExclusions⟩ :=
      (names "exclude-plugin").mp exclusions
    obtain ⟨rules, listsRules⟩ := (texts "rules").mp rules
    exact ⟨⟨level?, layout?, logFile?, color?, maxParallel?, plugins,
      exclusions, rules⟩, ⟨level, layout, logFile, color, maxParallel,
      listsPlugins, listsExclusions, listsRules⟩⟩
  · rintro ⟨settings, said⟩
    exact ⟨⟨_, said.level⟩, ⟨_, said.layout⟩, ⟨_, said.logFile⟩,
      ⟨_, said.color⟩, ⟨_, said.maxParallel⟩,
      (names "plugins").mpr ⟨_, said.plugins⟩,
      (names "exclude-plugin").mpr ⟨_, said.exclusions⟩,
      (texts "rules").mpr ⟨_, said.rules⟩⟩

theorem putSeverities_map_text (rules texts : List (String × String)) :
    putSeverities rules (texts.map fun entry => (entry.1, .text entry.2)) =
      Ordered.putAll texts rules := by
  induction texts generalizing rules with
  | nil => rfl
  | cons entry rest ih => exact ih _

theorem putSeverities_tableSeverities {texts : List (String × String)}
    (lists : Lists IsTexts (Ordered.find? "rules" table) texts)
    (rules : List (String × String)) :
    putSeverities rules (tableSeverities table) =
      Ordered.putAll texts rules := by
  rw [tableSeverities]
  cases found : Ordered.find? "rules" table with
  | none =>
      rw [found] at lists
      obtain rfl : texts = [] := lists
      rfl
  | some value =>
      rw [found] at lists
      obtain rfl : value = .table _ := lists
      exact putSeverities_map_text rules texts

theorem bind_namedFile?_eq_filter (text? : Option String) :
    text?.bind namedFile? = text?.filter fun text =>
      text ≠ "-" ∧ Text.lower text.toList ≠ "none".toList := by
  cases text? with
  | none => rfl
  | some text =>
      have lowered : Text.lower "none".toList = "none".toList := by decide
      have kept : (text ≠ "-" ∧ Text.lower text.toList ≠ "none".toList) ↔
          namesNoFile text = false := by
        simp only [namesNoFile, Text.sameIgnoringCase, lowered,
          Bool.or_eq_false_iff, beq_eq_false_iff_ne]
      rw [Option.bind_some, namedFile?, Option.filter_some]
      simp only [kept]
      cases namesNoFile text <;> rfl

/-- The options with the settings of a table: the values that the options have
stay, other than the color; names are added and severities replaced. -/
def filledWith (options : Options) (settings : Settings) : Options :=
  { options with
    logLevel := options.logLevel <|> settings.level?
    logLayout := options.logLayout <|> settings.layout?
    logFile := options.logFile <|> settings.logFile?.filter fun text =>
      text ≠ "-" ∧ Text.lower text.toList ≠ "none".toList
    color := settings.color? <|> options.color
    maxParallel := options.maxParallel <|> settings.maxParallel?
    plugins := options.plugins ++ settings.plugins
    exclusions := options.exclusions ++ settings.exclusions
    rules := Ordered.putAll settings.rules options.rules }

theorem filledFrom_of_said {settings : Settings}
    (said : settings.SaidBy table) :
    options.filledFrom table = options.filledWith settings := by
  have level := ((reads_levelSetting table).eq_ok_iff _).mpr said.level
  have layout := ((reads_layoutSetting table).eq_ok_iff _).mpr said.layout
  have logFile := ((reads_logFile table).eq_ok_iff _).mpr said.logFile
  have color := ((reads_colorSetting table).eq_ok_iff _).mpr said.color
  have maxParallel :=
    ((reads_parallelSetting table).eq_ok_iff _).mpr said.maxParallel
  simp only [filledFrom, filledWith, tableLogFile?, level, layout, logFile,
    color, maxParallel, SettingError.value?,
    namesSetting_of_lists table said.plugins,
    namesSetting_of_lists table said.exclusions,
    putSeverities_tableSeverities said.rules, bind_namedFile?_eq_filter]

/-- The table alone decides whether it is accepted and what is wrong with it.
The options with an accepted table have the values of the table for what they
leave open, its color, and its names behind their own, and its severities hide
theirs. -/
theorem configure_decided_by_table (options : Options) (table : Toml.Table) :
    (options.configure table).error? = tableFault? table ∧
      (tableFault? table = none ↔
        ∃ settings : Settings, settings.SaidBy table) ∧
      ∀ settings : Settings, settings.SaidBy table →
        let after := (options.configure table).options
        after = options.filledWith settings ∧
          (∀ rule, Ordered.find? rule after.rules =
            (Ordered.find? rule settings.rules.reverse <|>
              Ordered.find? rule options.rules)) ∧
          (Ordered.Ascending options.rules →
            Ordered.Ascending after.rules) := by
  refine ⟨error?_configure options table, tableFault?_eq_none_iff, ?_⟩
  intro settings said
  have accepted : (options.configure table).error? = none :=
    (error?_configure options table).trans
      (tableFault?_eq_none_iff.mpr ⟨settings, said⟩)
  have filled : (options.configure table).options =
      options.filledWith settings :=
    (reaches_configure options table accepted).trans (filledFrom_of_said said)
  rw [filled]
  exact ⟨rfl, fun rule =>
    Ordered.find?_putAll rule settings.rules options.rules,
    fun ascending => Ordered.ascending_putAll ascending settings.rules⟩

/-- A level that the command line gives stays, and a list in the place of the
level is rejected all the same. -/
theorem configure_decided_by_table_of_given_level :
    let options := { unset with
      logLevel := some .warn, plugins := ["dump"],
      rules := [("print-statement", "error")] }
    let table := [("color", Toml.Value.flag true), ("log-file", .text "None"),
      ("log-level", .text "DEBUG"), ("max-parallel", .integer 2),
      ("plugins", .text "dump"),
      ("rules", .table [("print-statement", .text "off"),
        ("select-star", .text "error")])]
    let faulty :=
      [("log-level", Toml.Value.list [.text "debug"]), ("rules", .flag true)]
    (options.configure table).error? = none ∧
      (options.configure table).options = { unset with
        logLevel := some .warn, color := some true, maxParallel := some 2
        plugins := ["dump", "dump"]
        rules := [("print-statement", "off"), ("select-star", "error")] } ∧
      (options.configure faulty).error? = some (.notText "log-level") := by
  intro options table faulty
  let settings : Settings :=
    ⟨some .debug, none, some "None", some true, some 2, ["dump"], [],
      [("print-statement", "off"), ("select-star", "error")]⟩
  have said : settings.SaidBy table :=
    { level := .some ⟨"DEBUG", rfl, by decide⟩
      layout := .none
      logFile := .some rfl
      color := .some rfl
      maxParallel := .some ⟨by decide, rfl⟩
      plugins := Or.inl ⟨"dump", rfl, rfl⟩
      exclusions := rfl
      rules := rfl }
  obtain ⟨decided, faultless, filled⟩ :=
    configure_decided_by_table options table
  refine ⟨decided.trans (faultless.mpr ⟨settings, said⟩), ?_, ?_⟩
  · rw [(filled settings said).1]
    decide +kernel
  · rw [(configure_decided_by_table options faulty).1]
    decide +kernel

end Options

end QueryLint
