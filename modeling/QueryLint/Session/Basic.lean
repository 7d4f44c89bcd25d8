import QueryLint.Content.Basic
import QueryLint.Files.Tree
import QueryLint.Output.Console
import QueryLint.Plugin.Registry

/-!
# Sessions

A session holds what work changes: the plugins, the console, the sinks to which
both write, and the file system.  Work done in a session leaves a journal of
records, of calls to plugins and visitors, of reports to the console, and of
contents given up, in the order in which they happen.  Work may crash, and
nothing happens after that.
-/

namespace QueryLint

/-- One sink for each outlet. -/
structure Sinks where
  standard : Sink
  report : Sink
  extra : Sink
  deriving DecidableEq, Repr, Inhabited

namespace Sinks

def fresh : Sinks :=
  ⟨.onto .working, .onto .working, .onto .working⟩

def get (sinks : Sinks) : Outlet → Sink
  | .standard => sinks.standard
  | .report => sinks.report
  | .extra => sinks.extra

def set (sinks : Sinks) (outlet : Outlet) (sink : Sink) : Sinks :=
  match outlet with
  | .standard => { sinks with standard := sink }
  | .report => { sinks with report := sink }
  | .extra => { sinks with extra := sink }

end Sinks

/-- What work changes. -/
structure Session where
  apiVersion : Nat
  registry : Registry
  console : Console
  consoleOutlet : Outlet
  sinks : Sinks
  files : FileTree

/-- A session without plugins, with a console that has reported nothing. -/
def Session.start (apiVersion : Nat) (consoleOutlet : Outlet) (sinks : Sinks)
    (files : FileTree) : Session :=
  ⟨apiVersion, .empty, .start, consoleOutlet, sinks, files⟩

/-- Something that happens during work. -/
inductive Entry where
  | noted (record : Log.Record)
  | visited (view : UnitView)
  | called (plugin : Plugin) (call : PluginCall)
  | reported (violation : Violation)
  | failed (unit error : String)
  | released (content : Content)

namespace Entry

/-- The record that the entry leaves in the log, if any. -/
def record? : Entry → Option Log.Record
  | noted record => some record
  | visited _ => none
  | called plugin (.activate view) =>
      some ⟨.trace, "sqllint::plugin::handler",
        s!"Activating plugin '{plugin.name}' for '{view.unit}'"⟩
  | called _ _ => none
  | reported _ => none
  | failed _ _ => none
  | released content => some content.releaseRecord

end Entry

/-- How work ends: with a value or in a crash. -/
inductive Ending (α : Type) where
  | value (value : α)
  | crash
  deriving DecidableEq, Repr, Inhabited

/-- The end of work, the session after it and the journal of it. -/
structure Done (α : Type) where
  ending : Ending α
  session : Session
  journal : List Entry

/-- Work to be done in a session. -/
def Work (α : Type) : Type :=
  Session → Done α

namespace Work

/-- Work that only has a value. -/
def pure (value : α) : Work α := fun session =>
  ⟨.value value, session, []⟩

/-- Work followed by more work, unless it crashes. -/
def bind (first : Work α) (next : α → Work β) : Work β := fun session =>
  match first session with
  | ⟨.crash, after, journal⟩ => ⟨.crash, after, journal⟩
  | ⟨.value value, after, journal⟩ =>
      let second := next value after
      ⟨second.ending, second.session, journal ++ second.journal⟩

instance : Monad Work where
  pure := Work.pure
  bind := Work.bind

def session : Work Session := fun session =>
  ⟨.value session, session, []⟩

def modify (change : Session → Session) : Work Unit := fun session =>
  ⟨.value (), change session, []⟩

def enter (entries : List Entry) : Work Unit := fun session =>
  ⟨.value (), session, entries⟩

def note (records : List Log.Record) : Work Unit :=
  enter (records.map .noted)

def crash : Work α := fun session =>
  ⟨.crash, session, []⟩

end Work

/-- The records that a journal leaves in the log. -/
def journalRecords (journal : List Entry) : List Log.Record :=
  journal.filterMap Entry.record?

end QueryLint
