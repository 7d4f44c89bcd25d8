/-!
# Where output goes

A sink takes text piece by piece.  It may be broken in several ways, and a full
device behind a line buffer refuses text only when the buffer has to pass it
on.
-/

namespace QueryLint

/-- What stands behind a sink. -/
inductive Device where
  /-- Takes everything. -/
  | working
  /-- Refuses every piece that is not empty, for the given reason. -/
  | refusing (reason : String)
  /-- Takes every piece, but cannot be flushed for the given reason. -/
  | unflushable (reason : String)
  /-- Crashes on the first piece that is not empty. -/
  | crashing
  /-- Sits behind a line buffer of the given size and takes nothing from it for
  the given reason. -/
  | full (bufferSize : Nat) (reason : String)
  deriving DecidableEq, Repr, Inhabited

/-- A sink with the text that has arrived and the text that waits in its
buffer. -/
structure Sink where
  device : Device
  written : String
  waiting : String
  deriving DecidableEq, Repr, Inhabited

/-- How writing to a sink ends. -/
inductive WriteResult where
  | done
  | refused (reason : String)
  | crashed
  deriving DecidableEq, Repr, Inhabited

namespace Sink

/-- A sink in front of a device, with nothing written yet. -/
def onto (device : Device) : Sink :=
  ⟨device, "", ""⟩

/-- The text up to and including its last line feed. -/
def wholeLines (text : List Char) : List Char :=
  (text.reverse.dropWhile fun character => character != '\n').reverse

/-- A full buffer makes room for a text without line feed, or keeps it
waiting. -/
def holdBack (sink : Sink) (size : Nat) (reason text : String) :
    WriteResult × Sink :=
  let room := size - sink.waiting.utf8ByteSize
  if text.utf8ByteSize < room then
    (.done, { sink with waiting := sink.waiting ++ text })
  else if room < text.utf8ByteSize && !sink.waiting.isEmpty then
    (.refused reason, sink)
  else if size ≤ text.utf8ByteSize then (.refused reason, sink)
  else (.done, { sink with waiting := sink.waiting ++ text })

/-- Writes to a full device behind a line buffer.  Text without a line feed
waits unless a whole line waits already; whole lines have to go out at once. -/
def writeFull (sink : Sink) (size : Nat) (reason text : String) :
    WriteResult × Sink :=
  let lines := String.ofList (wholeLines text.toList)
  if lines.isEmpty then
    if sink.waiting.toList.getLast? = some '\n' then (.refused reason, sink)
    else if text.isEmpty then (.done, sink)
    else sink.holdBack size reason text
  else if sink.waiting.isEmpty then (.refused reason, sink)
  else
    match sink.holdBack size reason lines with
    | (.done, held) => (.refused reason, held)
    | (result, held) => (result, held)

def write (sink : Sink) (text : String) : WriteResult × Sink :=
  match sink.device with
  | .working => (.done, { sink with written := sink.written ++ text })
  | .unflushable _ => (.done, { sink with written := sink.written ++ text })
  | .refusing reason => (if text.isEmpty then .done else .refused reason, sink)
  | .crashing => (if text.isEmpty then .done else .crashed, sink)
  | .full size reason => sink.writeFull size reason text

def flush (sink : Sink) : WriteResult :=
  match sink.device with
  | .working | .refusing _ | .crashing => .done
  | .unflushable reason => .refused reason
  | .full _ reason => if sink.waiting.isEmpty then .done else .refused reason

/-- Writes a line in two pieces, the text and its end, and flushes the sink; it
stops at the first step that fails. -/
def writeLine (sink : Sink) (text : String) : WriteResult × Sink :=
  match sink.write text with
  | (.done, afterText) =>
      match afterText.write "\n" with
      | (.done, afterEnd) => (afterEnd.flush, afterEnd)
      | failed => failed
  | failed => failed

/-- What has been written since an earlier state of the sink. -/
def since (sink earlier : Sink) : String :=
  String.ofList (sink.written.toList.drop earlier.written.length)

end Sink

end QueryLint
