import QueryLint.Suppression.Scan
import QueryLint.Content.Lines

/-!
# Reading content from a position

A cursor reads content forward from its position.  Skipping may move the
position past the end, where nothing is left to read; positions wrap at 64 bits.
-/

namespace QueryLint

/-- A position in content. -/
structure Cursor where
  bytes : List UInt8
  position : Nat
  deriving DecidableEq, Repr, Inhabited

namespace Cursor

/-- A cursor at the first byte. -/
def start (bytes : List UInt8) : Cursor :=
  ⟨bytes, 0⟩

def remaining (cursor : Cursor) : List UInt8 :=
  cursor.bytes.drop cursor.position

def isExhausted (cursor : Cursor) : Bool :=
  cursor.bytes.length ≤ cursor.position

/-- The cursor back at the first byte. -/
def rewind (cursor : Cursor) : Cursor :=
  { cursor with position := 0 }

def finish (cursor : Cursor) : Cursor :=
  { cursor with position := cursor.bytes.length }

/-- Reads as many bytes as there are, up to a count. -/
def read (cursor : Cursor) (count : Nat) : List UInt8 × Cursor :=
  let bytes := cursor.remaining.take count
  (bytes, { cursor with position := cursor.position + bytes.length })

def skip (cursor : Cursor) (count : Nat) : Cursor :=
  { cursor with position := (cursor.position + count) % UInt64.size }

/-- Reads all that is left; a position past the end stays. -/
def readAll (cursor : Cursor) : List UInt8 × Cursor :=
  cursor.read cursor.remaining.length

/-- Reads all that is left as text; the cursor is at the end afterwards. -/
def readText (cursor : Cursor) : Text × Cursor :=
  (decodeBytes cursor.remaining, cursor.finish)

/-- Reads all that is left as lines; the cursor is at the end afterwards. -/
def readLines (cursor : Cursor) : List Text × Cursor :=
  (textLines cursor.remaining, cursor.finish)

/-- Reads all that is left for its directives. -/
def scan (cursor : Cursor) : Suppressions × Cursor :=
  let (lines, finished) := cursor.readLines
  (Suppressions.ofLines lines, finished)

end Cursor

end QueryLint
