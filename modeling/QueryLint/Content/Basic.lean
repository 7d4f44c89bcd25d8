import QueryLint.Content.Lines
import QueryLint.Log.Record
import QueryLint.Suppression.Scan

/-!
# Content of units

A unit names a file or is itself the text of a query.  Its content is held as
bytes, so that every consumer reads it from the start.
-/

namespace QueryLint

/-- Where content comes from. -/
inductive Source where
  | file (path : String)
  | literal
  deriving DecidableEq, Repr, Inhabited

/-- The content of one unit. -/
structure Content where
  unit : String
  source : Source
  bytes : List UInt8
  deriving DecidableEq, Repr, Inhabited

namespace Content

/-- The unit's own text, taken as a query. -/
def ofQuery (unit : String) : Content :=
  ⟨unit, .literal, encodeBytes unit.toList⟩

def ofFile (unit path : String) (bytes : List UInt8) : Content :=
  ⟨unit, .file path, bytes⟩

def size (content : Content) : Nat :=
  content.bytes.length

def lines (content : Content) : List Text :=
  textLines content.bytes

def lineCount (content : Content) : Nat :=
  (splitLines content.bytes).length

def text (content : Content) : Text :=
  decodeBytes content.bytes

def suppressions (content : Content) : Suppressions :=
  Suppressions.ofLines content.lines

/-- The record of characters that the encoding of a query replaces. -/
def encodingRecords (query : String) : List Log.Record :=
  let replaced := replacedCount query.toList
  if replaced = 0 then []
  else
    [⟨.warn, "sqllint::ingest::content",
      s!"Query text contains {replaced} non-ASCII character(s); they are read as '?'"⟩]

/-- The records of scanning lines for directives: one for each enable
instruction that closes nothing. -/
def scanRecords (lines : List Text) : List Log.Record :=
  (Scan.ofLines lines).unmatched.map fun line =>
    ⟨.debug, "sqllint::suppression::scanner",
      s!"Ignoring enable directive on line {line} with no matching disable"⟩

def releaseRecord (content : Content) : Log.Record :=
  ⟨.trace, "sqllint::ingest::content",
    s!"Released content handle for '{content.unit}' ({content.size} bytes)"⟩

/-- Directives make the whole unit irrelevant: some range reaches from its
first line to its last. -/
def whollySuppressed (content : Content) (suppressions : Suppressions) : Bool :=
  suppressions.coverAll content.lineCount

def coverageRecords (content : Content) (suppressions : Suppressions) :
    List Log.Record :=
  if content.whollySuppressed suppressions then
    [⟨.debug, "sqllint::suppression::resolver",
      s!"Unit '{content.unit}' is suppressed on all {content.lineCount} line(s)"⟩]
  else []

end Content

end QueryLint
