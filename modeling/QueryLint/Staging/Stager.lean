import QueryLint.Files.Tree
import QueryLint.Staging.Error
import QueryLint.Staging.Table

/-!
# Staging units

A unit that names a file is read from it; any other unit is taken as the text of
a query.  A stager puts the content into its table and counts the units whose
content it could load, those that were there already included.
-/

namespace QueryLint

/-- What becomes of a unit that could be loaded. -/
inductive StageOutcome where
  | staged
  | duplicate
  deriving DecidableEq, Repr, Inhabited

/-- How the content of a unit is found. -/
abbrev Loader := String → Except StageError Content

namespace FileTree

/-- The content of a unit.  A file that the unit names must be read. -/
def load (tree : FileTree) : Loader := fun unit =>
  match tree.find unit with
  | .ok (.file bytes) => .ok (Content.ofFile unit unit bytes)
  | .ok (.sealed reason) => .error (.read unit reason)
  | .ok _ => .ok (Content.ofQuery unit)
  | .error error =>
      if error.namesNothing then .ok (Content.ofQuery unit)
      else .error (.read unit error)

end FileTree

def Content.loadRecords (content : Content) : List Log.Record :=
  match content.source with
  | .file path =>
      [⟨.debug, "sqllint::ingest::stager",
        s!"Read {content.size} bytes from '{path}'"⟩]
  | .literal => Content.encodingRecords content.unit

/-- A staging table and the number of units that were loaded.  A machine would
count them in 64 bits, but nobody stages 2^64 units, so the count has no
bound. -/
structure Stager where
  table : StagingTable
  count : Nat
  deriving DecidableEq, Repr, Inhabited

namespace Stager

/-- A stager that has seen no unit. -/
def start : Stager :=
  ⟨.empty, 0⟩

def increment (stager : Stager) : Stager :=
  { stager with count := stager.count + 1 }

/-- Starts counting again. -/
def reset (stager : Stager) : Stager :=
  { stager with count := 0 }

/-- Puts content into the table unless its unit is there, and counts it. -/
def add (stager : Stager) (content : Content) : StageOutcome × Stager :=
  match stager.table.insert? content with
  | some table => (.staged, { table := table, count := stager.count + 1 })
  | none => (.duplicate, stager.increment)

/-- Stages a unit; one that cannot be loaded leaves no trace. -/
def stage (load : Loader) (stager : Stager) (unit : String) :
    Except StageError StageOutcome × Stager :=
  match load unit with
  | .error error => (.error error, stager)
  | .ok content =>
      let (outcome, after) := stager.add content
      (.ok outcome, after)

/-- All contents, and the stager without them. -/
def takeAll (stager : Stager) : List Content × Stager :=
  let (contents, table) := stager.table.takeAll
  (contents, { stager with table := table })

end Stager

end QueryLint
