import QueryLint.Session.Basic
import QueryLint.Staging.Stager

/-!
# Intake of units

Taking units in stages them one after the other, in any order that the caller
chooses, and collects those that could not be loaded.
-/

namespace QueryLint

/-- A unit that could not be loaded. -/
structure StageFailure where
  unit : String
  error : StageError
  deriving DecidableEq, Repr, Inhabited

/-- What has been taken in: the stager, the units that could not be loaded, and
the journal of it. -/
structure Intake where
  stager : Stager
  failures : List StageFailure
  journal : List Entry

namespace Stager

/-- What happens when content is added, by outcome. -/
def addEntries (content : Content) : StageOutcome → List Entry
  | .staged =>
      [.noted ⟨.debug, "sqllint::ingest::stager",
        s!"Staged unit '{content.unit}'"⟩]
  | .duplicate =>
      [.noted ⟨.debug, "sqllint::ingest::stager",
          s!"Unit '{content.unit}' is already staged; keeping the first copy"⟩,
        .released content]

/-- What happens when a unit is staged. -/
def stageEntries (load : Loader) (stager : Stager) (unit : String) :
    List Entry :=
  match load unit with
  | .error _ => []
  | .ok content =>
      content.loadRecords.map .noted ++
        addEntries content (stager.add content).1

end Stager

namespace Intake

def start : Intake :=
  ⟨.start, [], []⟩

def step (load : Loader) (intake : Intake) (unit : String) : Intake :=
  let journal := intake.journal ++ intake.stager.stageEntries load unit
  match intake.stager.stage load unit with
  | (.ok _, stager) => ⟨stager, intake.failures, journal⟩
  | (.error error, stager) =>
      ⟨stager, intake.failures ++ [⟨unit, error⟩], journal⟩

def ofUnits (load : Loader) (units : List String) : Intake :=
  units.foldl (step load) start

end Intake

end QueryLint
