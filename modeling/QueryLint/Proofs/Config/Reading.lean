import Mathlib.Data.Set.List
import QueryLint.Proofs.Config.Filling
import QueryLint.Proofs.Ordered

/-!
# What a table says of the settings

A key takes values of one kind, and what is wrong with a value is decided by the
key and the value.  `Toml.Value.fault?` is that fault, and `Settings.SaidBy`
relates a table without faults to the settings for which its values stand.
-/

namespace QueryLint

namespace Log

theorem Threshold.ofAnyCase?_eq_some_iff {level : Threshold} {text : String} :
    Threshold.ofAnyCase? text = some level ↔
      level.name.toList = Text.lower text.toList := by
  have complete : ∀ level : Threshold, level ∈ Threshold.all := by
    intro level
    cases level <;> decide
  have injective : Function.Injective Threshold.name := by
    intro level other
    cases level <;> cases other <;> decide
  rw [Threshold.ofAnyCase?, Threshold.ofName?,
    Ordered.find?_named_eq_some_iff complete injective, ← String.toList_inj,
    String.toList_ofList]

theorem Layout.ofAnyCase?_eq_some_iff {layout : Layout} {text : String} :
    Layout.ofAnyCase? text = some layout ↔
      layout.name.toList = Text.lower text.toList := by
  have complete : ∀ layout : Layout, layout ∈ Layout.all := by
    intro layout
    cases layout <;> decide
  have injective : Function.Injective Layout.name := by
    intro layout other
    cases layout <;> cases other <;> decide
  rw [Layout.ofAnyCase?, Layout.ofName?,
    Ordered.find?_named_eq_some_iff complete injective, ← String.toList_inj,
    String.toList_ofList]

end Log

/-- The settings for which the values of a table stand. -/
structure Settings where
  level? : Option Log.Threshold
  layout? : Option Log.Layout
  logFile? : Option String
  color? : Option Bool
  maxParallel? : Option Nat
  plugins : List String
  exclusions : List String
  rules : List (String × String)

namespace Toml.Value

/-- The value is the name of the level, in any case of ASCII letters. -/
def IsLevel (value : Value) (level : Log.Threshold) : Prop :=
  ∃ text, value = .text text ∧ level.name.toList = Text.lower text.toList

/-- The value is the name of the layout, in any case of ASCII letters. -/
def IsLayout (value : Value) (layout : Log.Layout) : Prop :=
  ∃ text, value = .text text ∧ layout.name.toList = Text.lower text.toList

def IsText (value : Value) (text : String) : Prop :=
  value = .text text

def IsFlag (value : Value) (flag : Bool) : Prop :=
  value = .flag flag

def IsCount (value : Value) (count : Nat) : Prop :=
  0 < count ∧ value = .integer count

/-- The value is one name or a list of names. -/
def IsNames (value : Value) (names : List String) : Prop :=
  (∃ name, value = .text name ∧ names = [name]) ∨
    value = .list (names.map .text)

/-- The value is a table of texts. -/
def IsTexts (value : Value) (entries : List (String × String)) : Prop :=
  value = .table (entries.map fun entry => (entry.1, .text entry.2))

theorem asText?_eq_some_iff {value : Value} {content : String} :
    value.asText? = some content ↔ value = .text content := by
  cases value <;> simp [asText?]

theorem asFlag?_eq_some_iff {value : Value} {state : Bool} :
    value.asFlag? = some state ↔ value = .flag state := by
  cases value <;> simp [asFlag?]

theorem asInteger?_eq_some_iff {value : Value} {number : Int} :
    value.asInteger? = some number ↔ value = .integer number := by
  cases value <;> simp [asInteger?]

/-- What a list or a table has for a missing value is nothing. -/
def Lists {α : Type} (holds : Value → List α → Prop) :
    Option Value → List α → Prop
  | none, items => items = []
  | some value, items => holds value items

/-- Why the value is neither a text nor a list of texts. -/
def namesFault? (key : String) : Value → Option SettingError
  | text _ => none
  | list entries =>
      if entries.all fun entry => entry.asText?.isSome then none
      else some (.entryNotText key)
  | _ => some (.notTextOrList key)

/-- Why the value is no table of texts; of several entries that are none, the
first counts. -/
def textsFault? (key : String) : Value → Option SettingError
  | table entries =>
      (entries.find? fun entry => entry.2.asText?.isNone).map fun entry =>
        .severityNotText entry.1
  | _ => some (.notTable key)

theorem isSome_asText?_iff {value : Value} :
    value.asText?.isSome = true ↔ value ∈ Set.range text := by
  cases value <;> simp [asText?]

theorem namesFault?_eq_none_iff {key : String} {value : Value} :
    value.namesFault? key = none ↔ ∃ names, value.IsNames names := by
  cases value with
  | text name => exact iff_of_true rfl ⟨[name], Or.inl ⟨name, rfl, rfl⟩⟩
  | list entries =>
      have written : entries ∈ Set.range (List.map text) ↔
          ∀ entry ∈ entries, entry.asText?.isSome = true := by
        simp only [Set.range_list_map, Set.mem_ofPred_eq, isSome_asText?_iff]
      simp only [Set.mem_range, eq_comm] at written
      simp [namesFault?, IsNames, written, Option.isSome_iff_ne_none]
  | _ => simp [namesFault?, IsNames]

theorem textsFault?_eq_none_iff {key : String} {value : Value} :
    value.textsFault? key = none ↔ ∃ texts, value.IsTexts texts := by
  cases value with
  | table entries =>
      let entry (given : String × String) : String × Value :=
        (given.1, .text given.2)
      have isEntry (other : String × Value) :
          other ∈ Set.range entry ↔ other.2.asText?.isSome = true := by
        obtain ⟨key, value⟩ := other
        simp [entry, isSome_asText?_iff]
      have written : entries ∈ Set.range (List.map entry) ↔
          ∀ other ∈ entries, other.2.asText?.isSome = true := by
        simp only [Set.range_list_map, Set.mem_ofPred_eq, isEntry]
      simp only [Set.mem_range, eq_comm] at written
      simp [textsFault?, IsTexts, entry, written, Option.isSome_iff_ne_none]
  | _ => simp [textsFault?, IsTexts]

theorem bind_eq_none_iff_exists_lists {α : Type}
    {fault? : Value → Option SettingError} {holds : Value → List α → Prop}
    (faultless : ∀ value, fault? value = none ↔ ∃ items, holds value items)
    (value? : Option Value) :
    value?.bind fault? = none ↔ ∃ items, Lists holds value? items := by
  cases value? with
  | none => exact iff_of_true rfl ⟨[], rfl⟩
  | some value => exact faultless value

/-- Why the setting of a key does not take the value; a key that names no
setting takes every value. -/
def fault? (value : Value) : String → Option SettingError
  | "log-level" =>
      match value.asText? with
      | none => some (.notText "log-level")
      | some name =>
          if (Log.Threshold.ofAnyCase? name).isSome then none
          else some (.unknownLevel name)
  | "log-format" =>
      match value.asText? with
      | none => some (.notText "log-format")
      | some name =>
          if (Log.Layout.ofAnyCase? name).isSome then none
          else some (.unknownFormat name)
  | "log-file" =>
      if value.asText?.isSome then none else some (.notText "log-file")
  | "color" => if value.asFlag?.isSome then none else some (.notFlag "color")
  | "max-parallel" =>
      match value.asInteger? with
      | some number =>
          if 0 < number then none else some (.notPositive "max-parallel")
      | none => some (.notPositive "max-parallel")
  | "plugins" => value.namesFault? "plugins"
  | "exclude-plugin" => value.namesFault? "exclude-plugin"
  | "rules" => value.textsFault? "rules"
  | _ => none

end Toml.Value

open Toml.Value (IsLevel IsLayout IsText IsFlag IsCount IsNames IsTexts Lists
  asText?_eq_some_iff asFlag?_eq_some_iff asInteger?_eq_some_iff)

/-- The table has no other values than those that settings take, and they stand
for these settings. -/
structure Settings.SaidBy (settings : Settings) (table : Toml.Table) :
    Prop where
  level : Option.Rel IsLevel (Ordered.find? "log-level" table) settings.level?
  layout : Option.Rel IsLayout
    (Ordered.find? "log-format" table) settings.layout?
  logFile : Option.Rel IsText (Ordered.find? "log-file" table) settings.logFile?
  color : Option.Rel IsFlag (Ordered.find? "color" table) settings.color?
  maxParallel : Option.Rel IsCount
    (Ordered.find? "max-parallel" table) settings.maxParallel?
  plugins : Lists IsNames (Ordered.find? "plugins" table) settings.plugins
  exclusions : Lists IsNames
    (Ordered.find? "exclude-plugin" table) settings.exclusions
  rules : Lists IsTexts (Ordered.find? "rules" table) settings.rules

/-- The fault of a setting that is not accepted. -/
def SettingError.fault? {α : Type} : Except SettingError α → Option SettingError
  | .ok _ => none
  | .error error => some error

namespace Options

variable {α : Type}

/-- The setting is what it is by the value of its key: missing without one, not
accepted for the fault of the value, and otherwise what the value stands for. -/
structure Reads (setting : Except SettingError (Option α))
    (value? : Option Toml.Value) (key : String)
    (holds : Toml.Value → α → Prop) : Prop where
  fault : SettingError.fault? setting = value?.bind fun value =>
    value.fault? key
  eq_ok_iff : ∀ read?, setting = .ok read? ↔ Option.Rel holds value? read?

section

variable {setting : Except SettingError (Option α)} {value? : Option Toml.Value}
  {key : String} {holds : Toml.Value → α → Prop}

theorem reads_of_missing (missing : value? = none)
    (accepts : setting = .ok none) :
    Reads setting value? key holds := by
  subst missing accepts
  refine ⟨rfl, fun read? => ?_⟩
  cases read? with
  | none => exact iff_of_true rfl .none
  | some read => exact iff_of_false nofun nofun

theorem reads_of_accepted (read : α) {value : Toml.Value}
    (present : value? = some value) (accepts : setting = .ok (some read))
    (faultless : value.fault? key = none)
    (holds_iff : ∀ other, holds value other ↔ read = other) :
    Reads setting value? key holds := by
  subst present accepts
  refine ⟨faultless.symm, fun read? => ?_⟩
  cases read? with
  | none => exact iff_of_false nofun nofun
  | some other => simp [holds_iff]

theorem reads_of_rejected (error : SettingError) {value : Toml.Value}
    (present : value? = some value) (rejects : setting = .error error)
    (faulty : value.fault? key = some error)
    (unheld : ∀ other, ¬ holds value other) :
    Reads setting value? key holds := by
  subst present rejects
  refine ⟨faulty.symm, fun read? => ?_⟩
  cases read? with
  | none => exact iff_of_false nofun nofun
  | some other => simp [unheld]

end

variable {table : Toml.Table} {key : String}

/-- A setting that takes texts, if `ofText?` reads them. -/
private theorem reads_of_text (ofText? : String → Option α)
    (error : String → SettingError) {setting : Except SettingError (Option α)}
    {holds : Toml.Value → α → Prop}
    (setting_eq : setting = match textSetting table key with
      | .error error => .error error
      | .ok none => .ok none
      | .ok (some text) =>
          match ofText? text with
          | some read => .ok (some read)
          | none => .error (error text))
    (fault_eq : ∀ value : Toml.Value,
      value.fault? key = match value.asText? with
      | none => some (.notText key)
      | some text => if (ofText? text).isSome then none else some (error text))
    (holds_iff : ∀ value read, holds value read ↔
      ∃ text, value = .text text ∧ ofText? text = some read) :
    Reads setting (Ordered.find? key table) key holds := by
  cases present : Ordered.find? key table with
  | none =>
      exact reads_of_missing rfl (by simp [setting_eq, textSetting, present])
  | some value =>
      cases written : value.asText? with
      | none =>
          refine reads_of_rejected (.notText key) rfl ?_ ?_ ?_
          · simp [setting_eq, textSetting, present, written]
          · simp [fault_eq, written]
          · intro read held
            obtain ⟨text, rfl, -⟩ := (holds_iff _ _).mp held
            cases written
      | some text =>
          obtain rfl := asText?_eq_some_iff.mp written
          cases named : ofText? text with
          | none =>
              refine reads_of_rejected (error text) rfl ?_ ?_ ?_
              · simp [setting_eq, textSetting, present, written, named]
              · simp [fault_eq, written, named]
              · intro read held
                obtain ⟨_, ⟨⟩, isName⟩ := (holds_iff _ _).mp held
                rw [named] at isName
                cases isName
          | some read =>
              refine reads_of_accepted read rfl ?_ ?_ ?_
              · simp [setting_eq, textSetting, present, written, named]
              · simp [fault_eq, written, named]
              · simp [holds_iff, named]

variable (table)

theorem reads_levelSetting :
    Reads (levelSetting table)
      (Ordered.find? "log-level" table) "log-level" IsLevel := by
  refine reads_of_text Log.Threshold.ofAnyCase? .unknownLevel ?_
    (fun value => rfl) ?_
  · rw [levelSetting]
    rcases textSetting table "log-level" with error | _ | text
    · rfl
    · rfl
    · dsimp only
      cases Log.Threshold.ofAnyCase? text <;> rfl
  · simp only [Log.Threshold.ofAnyCase?_eq_some_iff]
    exact fun _ _ => Iff.rfl

theorem reads_layoutSetting :
    Reads (layoutSetting table)
      (Ordered.find? "log-format" table) "log-format" IsLayout := by
  refine reads_of_text Log.Layout.ofAnyCase? .unknownFormat ?_
    (fun value => rfl) ?_
  · rw [layoutSetting]
    rcases textSetting table "log-format" with error | _ | text
    · rfl
    · rfl
    · dsimp only
      cases Log.Layout.ofAnyCase? text <;> rfl
  · simp only [Log.Layout.ofAnyCase?_eq_some_iff]
    exact fun _ _ => Iff.rfl

theorem reads_logFile :
    Reads (textSetting table "log-file")
      (Ordered.find? "log-file" table) "log-file" IsText := by
  refine reads_of_text some (fun _ => .notText "log-file") ?_ ?_ ?_
  · rcases textSetting table "log-file" with error | _ | text <;> rfl
  · intro value
    simp only [Toml.Value.fault?]
    cases value.asText? <;> rfl
  · simp [IsText]

theorem reads_colorSetting :
    Reads (colorSetting table)
      (Ordered.find? "color" table) "color" IsFlag := by
  cases present : Ordered.find? "color" table with
  | none => exact reads_of_missing rfl (by simp [colorSetting, present])
  | some value =>
      cases written : value.asFlag? with
      | none =>
          refine reads_of_rejected (.notFlag "color") rfl ?_ ?_ ?_
          · simp [colorSetting, present, written]
          · simp [Toml.Value.fault?, written]
          · rintro flag rfl
            cases written
      | some flag =>
          obtain rfl := asFlag?_eq_some_iff.mp written
          refine reads_of_accepted flag rfl ?_ rfl ?_
          · simp [colorSetting, present, written]
          · simp [IsFlag]

theorem reads_parallelSetting :
    Reads (parallelSetting table)
      (Ordered.find? "max-parallel" table) "max-parallel"
      IsCount := by
  cases present : Ordered.find? "max-parallel" table with
  | none => exact reads_of_missing rfl (by simp [parallelSetting, present])
  | some value =>
      cases written : value.asInteger? with
      | none =>
          refine reads_of_rejected (.notPositive "max-parallel") rfl ?_ ?_ ?_
          · simp [parallelSetting, present, written]
          · simp [Toml.Value.fault?, written]
          · rintro count ⟨-, rfl⟩
            cases written
      | some number =>
          obtain rfl := asInteger?_eq_some_iff.mp written
          by_cases positive : 0 < number
          · refine reads_of_accepted number.toNat rfl ?_ ?_ ?_
            · simp [parallelSetting, present, written, positive]
            · simp [Toml.Value.fault?, written, positive]
            · intro count
              simp only [IsCount, Toml.Value.integer.injEq]
              omega
          · refine reads_of_rejected (.notPositive "max-parallel") rfl ?_ ?_ ?_
            · simp [parallelSetting, present, written, positive]
            · simp [Toml.Value.fault?, written, positive]
            · intro count
              simp only [IsCount, Toml.Value.integer.injEq]
              omega

theorem snd_listedTexts (key : String) (values : List Toml.Value) :
    (listedTexts key values).2 =
      if values.all fun entry => entry.asText?.isSome then none
      else some (.entryNotText key) := by
  induction values with
  | nil => rfl
  | cons value rest ih =>
      rw [listedTexts]
      cases written : value.asText? with
      | none => simp [written]
      | some text => simpa [written] using ih

theorem listedTexts_map_text (key : String) (names : List String) :
    listedTexts key (names.map .text) = (names, none) := by
  induction names with
  | nil => rfl
  | cons name others ih =>
      rw [List.map_cons, listedTexts, ih]
      rfl

theorem snd_namesSetting (key : String) :
    (namesSetting table key).2 =
      (Ordered.find? key table).bind fun value => value.namesFault? key := by
  rw [namesSetting]
  cases Ordered.find? key table with
  | none => rfl
  | some value =>
      cases value with
      | list values => exact snd_listedTexts key values
      | _ => rfl

theorem namesSetting_of_lists {key : String} {names : List String}
    (lists : Lists IsNames (Ordered.find? key table) names) :
    namesSetting table key = (names, none) := by
  rw [namesSetting]
  cases found : Ordered.find? key table with
  | none =>
      rw [found] at lists
      obtain rfl : names = [] := lists
      rfl
  | some value =>
      rw [found] at lists
      rcases lists with ⟨name, rfl, rfl⟩ | rfl
      · rfl
      · exact listedTexts_map_text key names

theorem error?_withSeverities (options : Options)
    (entries : List (String × Toml.Value)) :
    (options.withSeverities entries).error? =
      (entries.find? fun entry => entry.2.asText?.isNone).map fun entry =>
        .severityNotText entry.1 := by
  induction entries generalizing options with
  | nil => rfl
  | cons entry rest ih =>
      obtain ⟨rule, value⟩ := entry
      rw [withSeverities]
      cases written : value.asText? with
      | none => simp [written]
      | some severity => simp [written, ih]

theorem error?_withRules (options : Options) :
    (withRules table options).error? =
      (Ordered.find? "rules" table).bind fun value =>
        value.textsFault? "rules" := by
  rw [withRules]
  cases Ordered.find? "rules" table with
  | none => rfl
  | some value =>
      cases value with
      | table severities => exact error?_withSeverities options severities
      | _ => rfl

end Options

end QueryLint
