import QueryLint.Content.Basic
import QueryLint.Ordered

/-!
# The staging table

The table holds contents by their units, in ascending order, and keeps the
first content of each unit.
-/

namespace QueryLint

/-- Contents by unit. -/
structure StagingTable where
  entries : List (String × Content)
  deriving DecidableEq, Repr, Inhabited

namespace StagingTable

/-- A table without contents. -/
def empty : StagingTable :=
  ⟨[]⟩

def has (table : StagingTable) (unit : String) : Bool :=
  Ordered.has unit table.entries

def size (table : StagingTable) : Nat :=
  table.entries.length

/-- There is no content. -/
def isEmpty (table : StagingTable) : Bool :=
  table.entries.isEmpty

/-- The table with one more content; none if its unit is there already. -/
def insert? (table : StagingTable) (content : Content) : Option StagingTable :=
  if table.has content.unit then none
  else some ⟨Ordered.put content.unit content table.entries⟩

/-- The contents in ascending order of their units. -/
def contents (table : StagingTable) : List Content :=
  Ordered.values table.entries

/-- All contents, and the table without them. -/
def takeAll (table : StagingTable) : List Content × StagingTable :=
  (table.contents, empty)

end StagingTable

end QueryLint
