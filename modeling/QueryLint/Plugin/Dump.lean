import QueryLint.Content.Lines
import QueryLint.Log.Record
import QueryLint.Output.Sink
import QueryLint.Plugin.Error
import QueryLint.Plugin.Info
import QueryLint.Suppression.Directive

/-!
# The dump plugin

The plugin prints every dispatched unit with numbered lines.  It has to be
initialized first, and cleaning it up flushes what it has written.
-/

namespace QueryLint

/-- What a consumer sees of a dispatched unit. -/
structure UnitView where
  unit : String
  suppressions : Suppressions
  bytes : List UInt8
  deriving DecidableEq, Repr, Inhabited

/-- The dump plugin between calls. -/
structure Dump where
  initialized : Bool
  dumped : Nat
  deriving DecidableEq, Repr, Inhabited

namespace Dump

/-- A dump plugin that was never called. -/
def start : Dump :=
  ⟨false, 0⟩

def info : PluginInfo :=
  { name := "dump"
    version := "1.0.0"
    description := "Print each linted unit with line numbers"
    author := "sqllint"
    apiVersion := QueryLint.apiVersion
    autoActive := false }

/-- A number in decimal, right-aligned in a column of the width. -/
def alignRight (width number : Nat) : Text :=
  let digits := (toString number).toList
  List.replicate (width - digits.length) ' ' ++ digits

def numberWidth (lineCount : Nat) : Nat :=
  max 3 (toString lineCount).length

/-- One content line with its number and its end. -/
def numberedLine (width number : Nat) (line : Text) : Text :=
  alignRight width number ++ [' ', ' '] ++ line ++ ['\n']

def body (lines : List Text) : Text :=
  (lines.zipIdx 1).flatMap fun (line, number) =>
    numberedLine (numberWidth lines.length) number line

def header (view : UnitView) (lineCount : Nat) : String :=
  s!"--- {view.unit} ({lineCount} lines, {view.suppressions.size} suppression directives) ---\n"

def render (view : UnitView) : String :=
  let lines := textLines view.bytes
  header view lines.length ++ String.ofList (body lines)

/-- The error of an operation that fails for the given reason. -/
def failure (operation cause : String) : PluginError :=
  .execution info.name operation cause

/-- How a call to the plugin ends; a crash of the sink crashes the plugin. -/
inductive Outcome where
  | done
  | failed (error : PluginError)
  | crashed
  deriving DecidableEq, Repr, Inhabited

def prepare (dump : Dump) : Dump :=
  { dump with initialized := true }

def activate (dump : Dump) (sink : Sink) (view : UnitView) :
    Outcome × Dump × Sink :=
  if dump.initialized then
    match sink.write (render view) with
    | (.done, after) => (.done, { dump with dumped := dump.dumped + 1 }, after)
    | (.refused reason, after) =>
        (.failed (failure "activate" reason), dump, after)
    | (.crashed, after) => (.crashed, dump, after)
  else (.failed (failure "activate" "Plugin not initialized"), dump, sink)

def cleanupRecord (dump : Dump) : Log.Record :=
  ⟨.debug, "sqllint::plugin::builtin::dump",
    s!"dump: {dump.dumped} unit(s) written"⟩

/-- Flushes the sink and takes the readiness back. -/
def cleanup (dump : Dump) (sink : Sink) : Outcome × Dump × List Log.Record :=
  match sink.flush with
  | .done => (.done, { dump with initialized := false }, [dump.cleanupRecord])
  | .refused reason => (.failed (failure "cleanup" reason), dump, [])
  | .crashed => (.crashed, dump, [])

def describe (dump : Dump) : String :=
  s!"DumpPlugin \x7b initialized: {dump.initialized}, units_dumped: {dump.dumped} \x7d"

end Dump

end QueryLint
