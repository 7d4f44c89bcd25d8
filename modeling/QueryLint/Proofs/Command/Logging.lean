import Mathlib.Tactic.SplitIfs
import QueryLint.Command.Execution

/-!
# What surrounds the carrying out of options

Before options are carried out, the folder of the log file is made; afterwards
the log file is written.  Nothing else touches the files.
-/

namespace QueryLint

namespace Log

theorem Logger.exists_makeFolders {files prepared : FileTree} {path : String}
    (prepares : prepareFile files path = .ok prepared) :
    ∃ folder names, files.makeFolders folder names = .ok prepared := by
  unfold prepareFile at prepares
  split_ifs at prepares
  split at prepares
  · next made =>
      cases prepares
      exact ⟨_, _, made⟩
  · cases prepares

theorem Logger.of_ofRequest {request : LoggerRequest}
    {files prepared : FileTree} {logger : Logger}
    (requested : ofRequest request files = .ok (logger, prepared)) :
    logger.path? = request.path? ∧
      (request.path? = none ∧ prepared = files ∨
        ∃ path, request.path? = some path ∧
          prepareFile files path = .ok prepared) := by
  cases named : request.path? with
  | none =>
      simp only [ofRequest, bind, Except.bind, named] at requested
      repeat' split at requested
      all_goals cases requested
      all_goals exact ⟨rfl, Or.inl ⟨rfl, rfl⟩⟩
  | some path =>
      simp only [ofRequest, bind, Except.bind, named] at requested
      repeat' split at requested
      all_goals cases requested
      all_goals exact ⟨rfl, Or.inr ⟨path, rfl, ‹_›⟩⟩

end Log

theorem logger?_logRecords (logger? : Option Log.Logger) (now : Log.Moment)
    (records : List Log.Record) :
    (logRecords logger? now records).logger? = logger? := by
  have kept : ∀ (records : List Log.Record) (logging : Log.Logging),
      (records.foldl (fun logging record =>
        logging.write now record (some ownLine))
        logging).logger? = logging.logger? := by
    intro records
    induction records with
    | nil => exact fun _ => rfl
    | cons record rest ih =>
        intro logging
        rw [List.foldl_cons, ih]
        unfold Log.Logging.write
        split <;> rfl
  exact kept records _

/-- The files are as before, or the log has been written. -/
theorem finish_logRecords (logger? : Option Log.Logger) (now : Log.Moment)
    (records : List Log.Record) (files : FileTree) :
    ((logRecords logger? now records).finish files).2 = files ∨ ∃ log bytes,
      logger?.bind Log.Logger.path? = some log ∧
        files.write log bytes =
          .ok ((logRecords logger? now records).finish files).2 := by
  unfold Log.Logging.finish
  rw [logger?_logRecords]
  split
  · exact Or.inl rfl
  · next log named =>
      split_ifs
      · exact Or.inl rfl
      · cases written : files.write log
          (logRecords logger? now records).written.toUTF8.toList with
        | ok after => exact Or.inr ⟨log, _, named, written⟩
        | error => exact Or.inl rfl

namespace Options

/-- The session in which options are carried out. -/
def opening (device : Device) (files : FileTree) : Session :=
  Session.start apiVersion .standard
    { Sinks.fresh with standard := .onto device } files

/-- Carrying options out is preceded by making the folder of the log file, and
followed by writing the log file. -/
theorem carryOut_cases (options : Options) (path? : Option String)
    (surroundings : Surroundings) (device : Device) (files : FileTree) :
    ∃ prepared,
      (prepared = files ∨ ∃ log, options.logFile = some log ∧
        Log.Logger.prepareFile files log = .ok prepared) ∧
      let done :=
        Work.execute options path? surroundings (opening device prepared)
      let carried := options.carryOut path? surroundings device files
      (∀ code, done.ending = .value code → carried.exitCode = code) ∧
      (carried.files = done.session.files ∨ ∃ log bytes,
        options.logFile = some log ∧
        Log.Logger.prepareFile files log = .ok prepared ∧
        done.session.files.write log bytes = .ok carried.files) := by
  cases requested : Log.Logger.ofRequest
    (options.loggerRequest surroundings) files with
  | error error =>
      refine ⟨files, Or.inl rfl, ?_, Or.inl ?_⟩
      · intro code value
        unfold opening at value
        simp only [carryOut, requested, value]
      · let done :=
          Work.execute options path? surroundings (opening device files)
        have ended := finish_logRecords none surroundings.now
          (options.record :: journalRecords done.journal) done.session.files
        rw [carryOut, requested]
        rcases ended with kept | ⟨log, bytes, named, -⟩
        · exact kept
        · cases named
  | ok pair =>
      obtain ⟨logger, prepared⟩ := pair
      obtain ⟨own, made⟩ := Log.Logger.of_ofRequest requested
      refine ⟨prepared, made.imp And.right id, ?_, ?_⟩
      · intro code value
        unfold opening at value
        simp only [carryOut, requested, value]
      · let done :=
          Work.execute options path? surroundings (opening device prepared)
        have ended := finish_logRecords (some logger) surroundings.now
          (options.record :: journalRecords done.journal) done.session.files
        rw [carryOut, requested]
        rcases ended with kept | ⟨log, bytes, named, written⟩
        · exact Or.inl kept
        · have path : options.logFile = some log := own.symm.trans named
          rcases made with ⟨missing, -⟩ | ⟨other, present, prepares⟩
          · cases missing.symm.trans path
          · obtain rfl := Option.some.inj (path.symm.trans present)
            exact Or.inr ⟨log, bytes, path, prepares, written⟩

end Options

end QueryLint
