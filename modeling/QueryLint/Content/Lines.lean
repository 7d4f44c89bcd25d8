import QueryLint.Content.Encoding

/-!
# Lines of content

A line feed, a carriage return with a line feed, and a carriage return alone
each end a line.  Bytes after the last of them are one more line.
-/

namespace QueryLint

/-- The line that a byte continues, together with the lines after it. -/
def continueLine (byte : UInt8) : List (List UInt8) → List (List UInt8)
  | [] => [[byte]]
  | line :: lines => (byte :: line) :: lines

/-- The lines of content without their ends. -/
def splitLines : List UInt8 → List (List UInt8)
  | [] => []
  | 13 :: 10 :: rest => [] :: splitLines rest
  | 13 :: rest => [] :: splitLines rest
  | 10 :: rest => [] :: splitLines rest
  | byte :: rest => continueLine byte (splitLines rest)

def textLines (bytes : List UInt8) : List Text :=
  (splitLines bytes).map decodeBytes

end QueryLint
