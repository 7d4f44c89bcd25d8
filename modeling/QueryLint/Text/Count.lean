import QueryLint.Text.Basic

/-!
# Positive counts

A count is written in decimal digits, with an optional plus sign and white
space around it, and fits into 64 bits.
-/

namespace QueryLint.Text

/-- The number that decimal digits write, if there is at least one digit. -/
def decimal? (digits : Text) : Option Nat :=
  if digits.isEmpty || !digits.all Char.isDigit then none
  else some (digits.foldl
    (fun number digit => 10 * number + (digit.toNat - 48)) 0)

/-- The text without an optional plus sign. -/
def skipPlus : Text → Text
  | '+' :: digits => digits
  | digits => digits

/-- The unsigned number of 64 bits that a text writes. -/
def unsigned? (text : Text) : Option Nat :=
  match decimal? (skipPlus (trim text)) with
  | some number => if number < UInt64.size then some number else none
  | none => none

end QueryLint.Text
