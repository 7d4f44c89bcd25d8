/-!
# Elapsed seconds

Elapsed time is a number of nanoseconds.  Reports show it in seconds as the
shortest decimal that reads back as the same binary number of 53 bits.
-/

namespace QueryLint.Seconds

/-- A binary number: the significand times two to the exponent. -/
structure Binary where
  significand : Nat
  exponent : Int
  deriving DecidableEq, Repr, Inhabited

/-- Two to a power, as a fraction. -/
def power (exponent : Int) : Nat × Nat :=
  (Nat.pow 2 exponent.toNat, Nat.pow 2 (-exponent).toNat)

/-- The quotient rounded to the nearest number, a tie to the even one. -/
def divideToEven (numerator denominator : Nat) : Nat :=
  let quotient := numerator / denominator
  let rest := numerator % denominator
  if 2 * rest < denominator then quotient
  else if denominator < 2 * rest then quotient + 1
  else quotient + quotient % 2

/-- The quotient rounded to the nearest number, a tie to the upper one. -/
def divideHalfUp (numerator denominator : Nat) : Nat :=
  (2 * numerator + denominator) / (2 * denominator)

/-- The number of 53 bits nearest to a fraction.  The exponent is the one that
brings the fraction between `2 ^ 52` and `2 ^ 53`. -/
def Binary.ofFraction (numerator denominator : Nat) : Binary :=
  if numerator = 0 then ⟨0, 0⟩
  else
    let guess : Int := (numerator.log2 : Int) - (denominator.log2 : Int) - 52
    let above (exponent : Int) : Nat := numerator * (power exponent).2
    let below (exponent : Int) : Nat := denominator * (power exponent).1
    let exponent :=
      if above guess / below guess < Nat.pow 2 52 then guess - 1 else guess
    let significand := divideToEven (above exponent) (below exponent)
    if significand = Nat.pow 2 53 then ⟨Nat.pow 2 52, exponent + 1⟩
    else ⟨significand, exponent⟩

namespace Binary

def fraction (number : Binary) : Nat × Nat :=
  let (up, down) := power number.exponent
  (number.significand * up, down)

/-- The number of 53 bits nearest to a sum. -/
def add (left right : Binary) : Binary :=
  let (leftUp, leftDown) := left.fraction
  let (rightUp, rightDown) := right.fraction
  ofFraction (leftUp * rightDown + rightUp * leftDown) (leftDown * rightDown)

end Binary

def nanosecondsPerSecond : Nat :=
  1000000000

def ofParts (seconds nanoseconds : Nat) : Binary :=
  (Binary.ofFraction seconds 1).add
    (Binary.ofFraction nanoseconds nanosecondsPerSecond)

/-- A decimal with the given number of digits after the point that reads back as
the number: the nearer one of two, and the upper one if the number lies midway
between them. -/
def atPlaces? (number : Binary) (places : Nat) : Option Nat :=
  let (up, down) := number.fraction
  let grid := Nat.pow 10 places
  let below := up * grid / down
  let readsBack (digits : Nat) : Bool := Binary.ofFraction digits grid == number
  let nearer := divideHalfUp (up * grid) down
  let other := if nearer = below then below + 1 else below
  if readsBack nearer then some nearer
  else if readsBack other then some other
  else none

/-- A decimal whose last digits before the point are zeros, chosen by the same
rule. -/
def atZeros? (number : Binary) (zeros : Nat) : Option Nat :=
  let (up, down) := number.fraction
  let grid := Nat.pow 10 zeros
  let below := up / (down * grid)
  let readsBack (digits : Nat) : Bool :=
    Binary.ofFraction (digits * grid) 1 == number
  let nearer := divideHalfUp up (down * grid)
  let other := if nearer = below then below + 1 else below
  if nearer ≠ 0 && readsBack nearer then some (nearer * grid)
  else if other ≠ 0 && readsBack other then some (other * grid)
  else none

def padZeros (width : Nat) (digits : String) : String :=
  String.ofList (List.replicate (width - digits.length) '0') ++ digits

/-- Writes digits with so many places after the point. -/
def withPoint (digits places : Nat) : String :=
  if places = 0 then toString digits
  else
    let whole := digits / Nat.pow 10 places
    let part := digits % Nat.pow 10 places
    s!"{whole}." ++ padZeros places (toString part)

/-- The shortest decimal that reads back as the number, without an exponent. -/
def render (number : Binary) : String :=
  if number.significand = 0 then "0"
  else
    match (List.range 25).reverse.findSome? (atZeros? number) with
    | some digits => toString digits
    | none =>
        match (List.range 40).findSome? fun places =>
          (atPlaces? number places).map fun digits => (digits, places) with
        | some (digits, places) => withPoint digits places
        | none => "0"

end QueryLint.Seconds
