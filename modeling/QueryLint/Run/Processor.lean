import QueryLint.Run.Basic

/-!
# Processors

A processor makes one run after the other.  The runs share a counter of the
units that were loaded, and each of them sets it back before it begins; a table
of staged contents belongs to one run alone.
-/

namespace QueryLint

/-- A call of a processor, with a list of inputs or with a single one. -/
inductive Call where
  | list (inputs : List String)
  | query (input : String)
  deriving DecidableEq, Repr, Inhabited

def Call.units : Call → List String
  | list inputs => unitsOf inputs
  | query input => (splitUnits input.toList).map String.ofList

/-- What the runs of a processor need, and the counter that they share. -/
structure Processor where
  setup : RunSetup
  fileCount : Nat

namespace Processor

/-- A processor that has made no run. -/
def start (setup : RunSetup) : Processor :=
  ⟨setup, 0⟩

/-- What a run of the processor begins with. -/
def intake (processor : Processor) : Intake :=
  ⟨Stager.reset ⟨.empty, processor.fileCount⟩, [], []⟩

/-- What a call takes in, one unit after the other. -/
def taken (processor : Processor) (call : Call) : Intake :=
  call.units.foldl (Intake.step processor.setup.load) processor.intake

/-- The processor after a run, given what taking its units in has come to.  A
run that crashes before that has only set the counter back. -/
def after (processor : Processor) (intake : Intake) : Processor :=
  let counted :=
    if maxPermits < processor.setup.maxParallel then processor.intake
    else intake
  { processor with fileCount := counted.stager.count }

/-- A call of the processor. -/
def call (processor : Processor) (call : Call) : Work RunResult :=
  Work.runTaken processor.setup call.units (processor.taken call)

end Processor

end QueryLint
