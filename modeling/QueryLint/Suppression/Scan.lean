import QueryLint.Sql.LexedLine
import QueryLint.Suppression.Directive
import QueryLint.Suppression.Instruction

/-!
# Directives of a unit

A disable instruction opens a range for each of its selectors; an enable
instruction closes the open ranges it is about, on its own line; a disable-line
instruction is about its line alone.  A range that is never closed ends on the
last line.
-/

namespace QueryLint

/-- The instructions of a unit in text order, each with its line. -/
def Instruction.ofLines (lines : List Text) : List (Nat × Instruction) :=
  ((LexedLine.lexAll lines).zipIdx 1).flatMap fun (line, number) =>
    (line.comments.filterMap Instruction.ofComment?).map fun instruction =>
      (number, instruction)

/-- Progress of a scan: the directives completed so far, the ranges still open
in the order of their opening, and the lines of enable instructions that closed
nothing. -/
structure Scan where
  completed : List Directive
  opened : List (Selector × Nat)
  unmatched : List Nat
  deriving DecidableEq, Repr, Inhabited

namespace Scan

def start : Scan :=
  ⟨[], [], []⟩

def closes (selectors : List Selector) (selector : Selector) : Bool :=
  selectors.contains .every || selectors.contains selector

/-- The directives of open ranges that end on the line. -/
def closeAt (line : Nat) (ranges : List (Selector × Nat)) : List Directive :=
  ranges.filterMap fun (selector, first) => Directive.range? selector first line

/-- Takes one instruction on its line. -/
def step (scan : Scan) : Nat × Instruction → Scan
  | (line, ⟨.disableLine, selectors⟩) =>
      { scan with
        completed := scan.completed ++ selectors.map fun selector =>
          Directive.line selector line }
  | (line, ⟨.disable, selectors⟩) =>
      { scan with
        opened := scan.opened ++ selectors.map fun selector =>
          (selector, line) }
  | (line, ⟨.enable, selectors⟩) =>
      let (closing, kept) := scan.opened.partition fun range =>
        closes selectors range.1
      { completed := scan.completed ++ closeAt line closing
        opened := kept
        unmatched :=
          if closing.isEmpty then scan.unmatched ++ [line] else scan.unmatched }

def ofLines (lines : List Text) : Scan :=
  (Instruction.ofLines lines).foldl step start

/-- The directives once the unit ends on the given line. -/
def finish (scan : Scan) (lastLine : Nat) : Suppressions :=
  ⟨scan.completed ++ closeAt lastLine scan.opened⟩

end Scan

/-- The directives of a unit. -/
def Suppressions.ofLines (lines : List Text) : Suppressions :=
  (Scan.ofLines lines).finish lines.length

end QueryLint
