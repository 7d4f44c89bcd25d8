import QueryLint.Text.Basic

/-!
# Units of an input

An input is a list of units with a vertical bar between each two.  Every unit
counts, empty ones included.
-/

namespace QueryLint

def unitDelimiter : Char := '|'

def splitUnits (input : Text) : List Text :=
  Text.splitOn (fun character => character == unitDelimiter) input

/-- The units of several inputs, in order. -/
def splitBatch (inputs : List Text) : List Text :=
  inputs.flatMap splitUnits

/-- The names of the units of several inputs. -/
def unitsOf (inputs : List String) : List String :=
  (splitBatch (inputs.map String.toList)).map String.ofList

end QueryLint
