/-!
# Timers

A timer remembers when it was started and tells how much later it is.  It works
with the readings of any clock that counts nanoseconds.
-/

namespace QueryLint

/-- A timer that may have been started. -/
structure Timer where
  started? : Option Nat
  deriving DecidableEq, Repr, Inhabited

namespace Timer

/-- A timer that was never started. -/
def idle : Timer :=
  ⟨none⟩

def start (_ : Timer) (now : Nat) : Timer :=
  ⟨some now⟩

/-- The nanoseconds since the start; a timer that was never started has seen
none. -/
def elapsed (timer : Timer) (now : Nat) : Nat :=
  match timer.started? with
  | some started => now - started
  | none => 0

end Timer

end QueryLint
