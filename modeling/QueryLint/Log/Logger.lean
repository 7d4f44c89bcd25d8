import QueryLint.Files.Tree
import QueryLint.Log.Filter
import QueryLint.Log.Layout

/-!
# Loggers

A logger writes the records that its filter keeps to a file or to standard
error.  The folder of the file is made when the logger is set up, and the file
itself when the first record is written.
-/

namespace QueryLint.Log

/-- Why a logger could not be set up or changed. -/
inductive LoggerError where
  | badFilter (text : String)
  | badLayout (text : String)
  | badFile (path : String)
  | alreadySet
  | notSet
  deriving DecidableEq, Repr, Inhabited

def LoggerError.message : LoggerError → String
  | badFilter text => s!"'{text}' is no log level"
  | badLayout _ => "Matching variant not found"
  | badFile path => s!"cannot log to '{path}'"
  | alreadySet => "the logger is already set"
  | notSet => "Logger handle not initialised. Call init_logging first."

/-- What a logger does with records. -/
structure Logger where
  filter : Filter
  layout : Layout
  colored : Bool
  path? : Option String
  deriving DecidableEq, Repr, Inhabited

/-- What is asked of a logger. -/
structure LoggerRequest where
  level? : Option String
  layout? : Option String
  path? : Option String
  colored : Bool
  deriving DecidableEq, Repr, Inhabited

namespace Logger

/-- The file that a path names, if it may be logged to, with its folder made. -/
def prepareFile (files : FileTree) (path : String) :
    Except LoggerError FileTree :=
  if files.isFolder path || (FileTree.names path).isEmpty ||
    path.endsWith ".." then
      .error (.badFile path)
  else
    match files.makeParent path with
    | .ok files => .ok files
    | .error _ => .error (.badFile path)

def ofRequest (request : LoggerRequest) (files : FileTree) :
    Except LoggerError (Logger × FileTree) := do
  let layout ←
    match request.layout? with
    | none => .ok .text
    | some name =>
        match Layout.ofAnyCase? name with
        | some layout => .ok layout
        | none => .error (.badLayout name)
  let level := request.level?.getD "info"
  let filter ←
    match Filter.ofText? level with
    | some filter => .ok filter
    | none => .error (.badFilter level)
  let files ←
    match request.path? with
    | none => .ok files
    | some path => prepareFile files path
  return (⟨filter, layout, request.colored, request.path?⟩, files)

/-- The logger with the filter that a text writes. -/
def withFilter (logger : Logger) (text : String) : Except LoggerError Logger :=
  match Filter.ofText? text with
  | some filter => .ok { logger with filter := filter }
  | none => .error (.badFilter text)

def write (logger : Logger) (now : Moment) (record : Record)
    (line? : Option Nat) : String :=
  if logger.filter.keeps record then
    logger.layout.render logger.colored now record line? ++ "\n"
  else ""

end Logger

/-- A logger that may be set, with all that it has written. -/
structure Logging where
  logger? : Option Logger
  written : String
  deriving DecidableEq, Repr, Inhabited

namespace Logging

/-- Writes a record, if the logger is set. -/
def write (logging : Logging) (now : Moment) (record : Record)
    (line? : Option Nat) :
    Logging :=
  match logging.logger? with
  | none => logging
  | some logger =>
      { logging with
        written := logging.written ++ logger.write now record line? }

/-- Changes the filter of the logger, if it is set. -/
def setFilter (logging : Logging) (text : String) :
    Except LoggerError Logging :=
  match logging.logger? with
  | none => .error .notSet
  | some logger =>
      (logger.withFilter text).map fun changed =>
        { logging with logger? := some changed }

/-- Brings what the logger has written to its place: the text for standard
error, and the file system with the file of the logger.  A file that cannot be
written stays as it is. -/
def finish (logging : Logging) (files : FileTree) : String × FileTree :=
  match logging.logger?.bind Logger.path? with
  | none => (logging.written, files)
  | some path =>
      if logging.written.isEmpty then ("", files)
      else ("", (files.write path logging.written.toUTF8.toList).toOption.getD
        files)

end Logging

end QueryLint.Log
