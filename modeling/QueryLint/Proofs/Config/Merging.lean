import Mathlib
import QueryLint.Proofs.Config.Deciding
import QueryLint.Proofs.Files.Writing
import QueryLint.Proofs.Text.Names

/-!
# Lists of names from two places

The lists of the command line are split into names before those of the
configuration file are added, and what comes of that is split again.  The first
splitting changes none of the lists that are in effect, whatever the
configuration file holds.
-/

namespace QueryLint

/-- The lists of the options are split into the same names. -/
structure Options.SameNames (options other : Options) : Prop where
  plugins : nameList options.plugins = nameList other.plugins
  exclusions : nameList options.exclusions = nameList other.exclusions

/-- The same setting was not accepted, if any, and the names are the same. -/
structure Configured.SameNames (configured other : Configured) : Prop where
  error : configured.error? = other.error?
  options : configured.options.SameNames other.options

theorem Configured.SameNames.andThen {configured other : Configured}
    {take : Options → Configured} (same : configured.SameNames other)
    (taken : ∀ options other : Options, options.SameNames other →
      (take options).SameNames (take other)) :
    (configured.andThen take).SameNames (other.andThen take) := by
  rw [Configured.andThen, Configured.andThen, ← same.error]
  cases configured.error? with
  | none => exact taken _ _ same.options
  | some error => exact same

namespace Options

open Text (Trimmed)

variable {options other : Options}

theorem sameNames_normalise (options : Options) :
    options.normalise.SameNames options :=
  ⟨nameList_nameList options.plugins, nameList_nameList options.exclusions⟩

theorem SameNames.withSetting {α : Type} (same : options.SameNames other)
    (setting : Except SettingError (Option α)) {add addOther : α → Options}
    (added : ∀ value, (add value).SameNames (addOther value)) :
    (options.withSetting setting add).SameNames
      (other.withSetting setting addOther) := by
  rcases setting with error | _ | value
  · exact ⟨rfl, same⟩
  · exact ⟨rfl, same⟩
  · exact ⟨rfl, added value⟩

theorem SameNames.withRules (same : options.SameNames other)
    (table : Toml.Table) :
    (options.withRules table).SameNames (other.withRules table) := by
  refine ⟨(error?_withRules table options).trans
    (error?_withRules table other).symm, ?_⟩
  rw [options_withRules, options_withRules]
  exact ⟨same.plugins, same.exclusions⟩

/-- A table adds to lists that are split into the same names. -/
theorem SameNames.configure (same : options.SameNames other)
    (table : Toml.Table) :
    (options.configure table).SameNames (other.configure table) := by
  have start : Configured.SameNames ⟨options, none⟩ ⟨other, none⟩ := ⟨rfl, same⟩
  unfold Options.configure
  refine .andThen (.andThen (.andThen (.andThen (.andThen (.andThen
    (.andThen (.andThen start ?level) ?layout) ?file)
      ?color) ?parallel) ?plugins) ?exclusions) ?rules
  case level | layout | file | color | parallel =>
      exact fun _ _ same => same.withSetting _ fun _ =>
        ⟨same.plugins, same.exclusions⟩
  case plugins =>
      intro options other same
      rcases namesSetting table "plugins" with ⟨names, error?⟩
      exact ⟨rfl, nameList_append_congr same.plugins names, same.exclusions⟩
  case exclusions =>
      intro options other same
      rcases namesSetting table "exclude-plugin" with ⟨names, error?⟩
      exact ⟨rfl, same.plugins, nameList_append_congr same.exclusions names⟩
  case rules => exact fun _ _ same => same.withRules table

/-- Splitting the lists beforehand changes neither the result of loading a
configuration file nor the names in the lists. -/
theorem sameNames_load_normalise (options : Options) (files : FileTree) :
    (options.normalise.load files).result = (options.load files).result ∧
      (options.normalise.load files).options.SameNames
        (options.load files).options := by
  have same : options.normalise.SameNames options := sameNames_normalise options
  have path : options.normalise.configPath? files =
      options.configPath? files := rfl
  have named : options.normalise.configFile = options.configFile := rfl
  rw [load, load, path]
  cases options.configPath? files with
  | none => exact ⟨rfl, same⟩
  | some path =>
      simp only [loadFrom, named]
      split
      · exact ⟨rfl, same⟩
      cases files.readText path with
      | error reason => exact ⟨rfl, same⟩
      | ok document =>
          dsimp only
          cases Toml.Table.ofText document with
          | error reason => exact ⟨rfl, same⟩
          | ok table =>
              have configured := same.configure table
              dsimp only
              rw [configured.error]
              cases (options.configure table).error? with
              | some reason => exact ⟨rfl, configured.options⟩
              | none =>
                  refine ⟨rfl, ?_, ?_⟩
                  · exact congrArg nameList configured.options.plugins
                  · exact congrArg nameList configured.options.exclusions

/-- Options that are loaded have their lists split already. -/
theorem exists_normalise_of_load {files : FileTree} {path? : Option String}
    (loads : (options.normalise.load files).result = .ok path?) :
    ∃ whole : Options, (options.normalise.load files).options =
      whole.normalise := by
  unfold load at loads ⊢
  split at loads
  · exact ⟨options, rfl⟩
  · obtain ⟨-, -, table, -, -, -, loaded⟩ := exists_table_of_loadFrom loads
    exact ⟨_, loaded⟩

theorem configure_normalise_of_said (options : Options) {table : Toml.Table}
    {settings : Settings} (said : settings.SaidBy table) :
    (options.normalise.configure table).options =
      options.normalise.filledWith settings := by
  have accepted : (options.normalise.configure table).error? = none :=
    (error?_configure _ table).trans
      (tableFault?_eq_none_iff.mpr ⟨settings, said⟩)
  exact (reaches_configure _ table accepted).trans (filledFrom_of_said said)

/-- A list of names has what stands between the commas of texts, trimmed and
unless it is empty, each name once and in the order in which they first appear.
Texts may be split into names before more texts are added, or not; so the lists
of the command line and of the configuration file are those that come of
splitting both at once. -/
theorem names_split_early_or_late (texts more : List String)
    (options : Options) :
    (∃ items : List String,
        List.Forall₂ (fun piece item => Trimmed piece item.toList)
          (texts.flatMap fun text => List.splitOn ',' text.toList) items ∧
        let names := items.filter (· ≠ "")
        (∀ name, name ∈ nameList texts ↔ name ∈ names) ∧
          (nameList texts).Pairwise fun earlier later =>
            names.idxOf earlier < names.idxOf later) ∧
      (∀ name ∈ nameList texts,
        ',' ∉ name.toList ∧ Trimmed name.toList name.toList) ∧
      nameList (nameList texts ++ more) = nameList (texts ++ more) ∧
      nameList (nameList texts) = nameList texts ∧
      (∀ (table : Toml.Table) (settings : Settings), settings.SaidBy table →
        let merged := (options.normalise.configure table).options.normalise
        merged.plugins = nameList (options.plugins ++ settings.plugins) ∧
          merged.exclusions = nameList
            (options.exclusions ++ settings.exclusions)) ∧
      ∀ files : FileTree,
        let early := options.normalise.load files
        let late := options.load files
        early.result = late.result ∧ ∀ path?, early.result = .ok path? →
          early.options.plugins = nameList late.options.plugins ∧
            early.options.exclusions = nameList late.options.exclusions := by
  refine ⟨⟨itemsIn texts, forall₂_trimmed_itemsIn texts, ?_⟩,
    fun name member => ?_, nameList_nameList_append texts more,
    nameList_nameList texts, ?_, fun files => ?_⟩
  · have appearances := firstAppearances_nameList texts
    rw [flatMap_namesIn] at appearances
    exact ⟨appearances.mem_iff, appearances.ordered⟩
  · have listed : IsListed name := isListed_of_mem_nameList member
    exact ⟨listed.undivided, listed.trimmed⟩
  · intro table settings said merged
    have filled := configure_normalise_of_said options said
    constructor
    · exact (congrArg (fun filled => nameList filled.plugins) filled).trans
        (nameList_nameList_append options.plugins settings.plugins)
    · exact (congrArg (fun filled => nameList filled.exclusions) filled).trans
        (nameList_nameList_append options.exclusions settings.exclusions)
  · obtain ⟨result, same⟩ := sameNames_load_normalise options files
    refine ⟨result, fun path? loads => ?_⟩
    obtain ⟨whole, loaded⟩ := exists_normalise_of_load loads
    rw [← same.plugins, ← same.exclusions, loaded]
    exact ⟨(nameList_nameList whole.plugins).symm,
      (nameList_nameList whole.exclusions).symm⟩

/-- A name that is given in both places, and twice in one of them, is listed
once. -/
theorem names_split_early_or_late_of_repeated_name :
    let options := { unset with
      configFile := some "c.toml", plugins := ["b, a", "b"],
      exclusions := [" ,x"] }
    let table := [("plugins", Toml.Value.text " b,c")]
    let document := "plugins = \" b,c\"\n"
    let files : FileTree :=
      ⟨[(["c.toml"], .file document.toUTF8.toList)], [], none⟩
    let merged := (options.normalise.configure table).options.normalise
    let loaded := (options.normalise.load files).options
    (merged.plugins = ["b", "a", "c"] ∧ merged.exclusions = ["x"]) ∧
      loaded.plugins = ["b", "a", "c"] ∧ loaded.exclusions = ["x"] := by
  intro options table document files merged loaded
  have said : Settings.SaidBy
      ⟨none, none, none, none, none, [" b,c"], [], []⟩ table :=
    { level := .none
      layout := .none
      logFile := .none
      color := .none
      maxParallel := .none
      plugins := Or.inl ⟨" b,c", rfl, rfl⟩
      exclusions := rfl
      rules := rfl }
  have parsed : Toml.Table.ofText document = .ok table := by cbv
  have isName : FileTree.IsName "c.toml" := by decide +kernel
  have holds : files.Holds "c.toml" ["c.toml"] document.toUTF8.toList :=
    isName.holds rfl (by decide +kernel)
  have read : files.readText "c.toml" = .ok document :=
    holds.readText (by decide +kernel)
  obtain ⟨early, -⟩ :=
    load_of_valid (show options.normalise.configFile = _ from rfl) read parsed
      (by decide +kernel)
  obtain ⟨-, late⟩ :=
    load_of_valid (show options.configFile = _ from rfl) read parsed
      (by decide +kernel)
  obtain ⟨-, -, -, -, split, loads⟩ := names_split_early_or_late [] [] options
  obtain ⟨plugins, exclusions⟩ := split table _ said
  obtain ⟨loadedPlugins, loadedExclusions⟩ := (loads files).2 _ early
  rw [plugins, exclusions, loadedPlugins, loadedExclusions, late]
  decide +kernel

end Options

end QueryLint
