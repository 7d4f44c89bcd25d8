import Mathlib
import QueryLint.Command.Line
import QueryLint.Proofs.Config.Filling
import QueryLint.Proofs.Files.Writing

/-!
# The log file in effect

A command line that names a log file has it, whatever a table says.  One that
asks for no log file has none after `Options.normalise`, and nothing tells it
from one that does not mention the log file, so that the table decides.
-/

namespace QueryLint

namespace Options

theorem namedFile?_eq_some_iff {text path : String} :
    namedFile? text = some path ↔ namesNoFile text = false ∧ path = text := by
  unfold namedFile?
  cases namesNoFile text <;> simp [eq_comm]

theorem bind_namedFile?_orElse {given : String} {table : Toml.Table} :
    (namedFile? given <|> tableLogFile? table).bind namedFile? =
      (namedFile? given <|> tableLogFile? table) := by
  have kept : ∀ text, (namedFile? text).bind namedFile? = namedFile? text := by
    intro text
    cases named : namedFile? text with
    | none => rfl
    | some path =>
        obtain ⟨-, rfl⟩ := namedFile?_eq_some_iff.mp named
        exact named
  unfold tableLogFile?
  cases named : namedFile? given with
  | some path =>
      have file := kept given
      rw [named] at file
      exact file
  | none =>
      cases SettingError.value? (textSetting table "log-file") with
      | none => rfl
      | some text => exact kept text

variable {options : Options} {given : String}

/-- A log file that the command line names stays.  If it asks for none, that of
the configuration file is taken. -/
theorem logFile_in_effect (gives : options.logFile = some given) :
    (∀ table, (options.normalise.configure table).error? = none →
      let inEffect :=
        (options.normalise.configure table).options.normalise.logFile
      inEffect = (namedFile? given <|> tableLogFile? table) ∧
        (inEffect = options.normalise.logFile ↔
          namesNoFile given = false ∨ tableLogFile? table = none)) ∧
    ∀ files path?, (options.normalise.load files).result = .ok path? →
      let inEffect := (options.normalise.load files).options.logFile
      (path? = none → inEffect = options.normalise.logFile) ∧
        ∀ path, path? = some path → ∃ document table,
          files.readText path = .ok document ∧
          Toml.Table.ofText document = .ok table ∧
          (options.normalise.configure table).error? = none ∧
          inEffect = (namedFile? given <|> tableLogFile? table) := by
  have normalised : options.normalise.logFile = namedFile? given := by
    rw [normalise, gives]
    rfl
  have filled : ∀ table,
      (options.normalise.filledFrom table).normalise.logFile =
        (namedFile? given <|> tableLogFile? table) := by
    intro table
    rw [← bind_namedFile?_orElse, ← normalised]
    rfl
  constructor
  · intro table valid
    rw [reaches_configure options.normalise table valid, filled, normalised]
    refine ⟨rfl, ?_⟩
    unfold namedFile?
    cases namesNoFile given <;> simp
  · intro files path? loads
    unfold load at loads ⊢
    split at loads
    · cases loads
      exact ⟨fun _ => rfl, nofun⟩
    · next path found =>
        obtain ⟨rfl, document, table, read, parsed, valid, after⟩ :=
          exists_table_of_loadFrom loads
        refine ⟨nofun, ?_⟩
        rintro _ ⟨⟩
        refine ⟨document, table, read, parsed, valid, ?_⟩
        rw [after, filled]

/-- A log file of the table is in effect though the command line wants none. -/
theorem logFile_in_effect_unwanted :
    let options :=
      { unset with configFile := some "c.toml", logFile := some "None" }
    let table := [("log-file", Toml.Value.text "x.log")]
    let document := "log-file = \"x.log\"\n"
    let files : FileTree :=
      ⟨[(["c.toml"], .file document.toUTF8.toList)], [], none⟩
    ofWords ["--log-file", "None", "--config", "c.toml"] = .ok options ∧
      options.normalise.logFile = none ∧
      (options.normalise.configure table).options.normalise.logFile =
        some "x.log" ∧
      (options.normalise.load files).options.logFile = some "x.log" := by
  intro options table document files
  have parsed : Toml.Table.ofText document = .ok table := by cbv
  have isName : FileTree.IsName "c.toml" := by decide +kernel
  have holds : files.Holds "c.toml" ["c.toml"] document.toUTF8.toList :=
    isName.holds rfl (by decide +kernel)
  have read : files.readText "c.toml" = .ok document :=
    holds.readText (by decide +kernel)
  have valid : (options.normalise.configure table).error? = none := by
    decide +kernel
  have named : options.normalise.configFile = some "c.toml" := rfl
  obtain ⟨loads, -⟩ := load_of_valid named read parsed valid
  obtain ⟨tables, runs⟩ :=
    logFile_in_effect (show options.logFile = some "None" from rfl)
  obtain ⟨document', table', read', parsed', -, inEffect⟩ :=
    (runs files _ loads).2 _ rfl
  obtain rfl := Except.ok.inj (read.symm.trans read')
  obtain rfl := Except.ok.inj (parsed.symm.trans parsed')
  refine ⟨by cbv, by decide +kernel, ?_, ?_⟩
  · rw [(tables table valid).1]
    decide +kernel
  · rw [inEffect]
    decide +kernel

/-- The command line asks for no log file, and the table decides all the
same. -/
theorem unwanted_logFile_in_effect :
    ∃ options, ofWords ["--log-file", "none"] = .ok options ∧
      (options.normalise.configure [("log-file", .text "x.log")]).error? =
        none ∧
      options.normalise.logFile = none ∧
      (options.normalise.configure
        [("log-file", .text "x.log")]).options.normalise.logFile =
        some "x.log" := by
  refine ⟨{ unset with logFile := some "none" }, ?_, ?_, ?_, ?_⟩
  · cbv
  · decide +kernel
  · decide +kernel
  · decide +kernel

end Options

end QueryLint
