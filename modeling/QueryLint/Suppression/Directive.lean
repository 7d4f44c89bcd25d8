import QueryLint.Suppression.Selector

/-!
# Suppression directives

A directive silences the selected rules on one line or on a range of lines.
Lines are numbered from one, and a range holds at least one line.
-/

namespace QueryLint

/-- The lines from a first to a last one, both included. -/
structure LineRange where
  first : Nat
  last : Nat
  first_pos : 0 < first
  ordered : first ≤ last
  deriving DecidableEq, Repr

namespace LineRange

/-- The range between two lines, unless it would be empty or start before line
one. -/
def of? (first last : Nat) : Option LineRange :=
  if bounds : 0 < first ∧ first ≤ last then
    some ⟨first, last, bounds.1, bounds.2⟩
  else none

def holds (range : LineRange) (line : Nat) : Bool :=
  range.first ≤ line && line ≤ range.last

end LineRange

/-- An instruction to ignore the selected rules on some lines. -/
inductive Directive where
  | line (selector : Selector) (line : Nat)
  | range (selector : Selector) (lines : LineRange)
  deriving DecidableEq, Repr

namespace Directive

/-- The rules that the directive is about. -/
def selector : Directive → Selector
  | line selector _ => selector
  | range selector _ => selector

def holds : Directive → Nat → Bool
  | line _ silenced, number => silenced == number
  | range _ lines, number => lines.holds number

def silences (directive : Directive) (rule : String) (number : Nat) : Bool :=
  directive.holds number && directive.selector.covers rule

/-- A range directive, if there is such a range. -/
def range? (selector : Selector) (first last : Nat) : Option Directive :=
  (LineRange.of? first last).map (range selector)

def isRange : Directive → Bool
  | line .. => false
  | range .. => true

end Directive

/-- The directives of one unit, in the order in which they are completed. -/
structure Suppressions where
  directives : List Directive
  deriving DecidableEq, Repr, Inhabited

namespace Suppressions

/-- A unit without directives. -/
def empty : Suppressions :=
  ⟨[]⟩

/-- There is no directive. -/
def isEmpty (suppressions : Suppressions) : Bool :=
  suppressions.directives.isEmpty

def size (suppressions : Suppressions) : Nat :=
  suppressions.directives.length

def silences (suppressions : Suppressions) (rule : String) (line : Nat) :
    Bool :=
  suppressions.directives.any fun directive => directive.silences rule line

/-- Last lines of the range directives that begin on the line. -/
def endsFrom (suppressions : Suppressions) (first : Nat) : List Nat :=
  suppressions.directives.filterMap fun directive =>
    match directive with
    | .line .. => none
    | .range _ lines =>
        if lines.first = first then some lines.last else none

/-- Some range directive reaches from the first to the last of so many lines,
whichever rules it is about. -/
def coverAll (suppressions : Suppressions) (lineCount : Nat) : Bool :=
  (suppressions.endsFrom 1).contains lineCount

end Suppressions

end QueryLint
