import QueryLint.Proofs.Ordered
import QueryLint.Proofs.Text.ByteOrder
import QueryLint.Staging.Intake

/-!
# What taking units in amounts to

The order in which units are taken in decides about the order of failures and of
log records, and about nothing else.  `Intake.Accounts` says what does not
depend on it: the staging table, the count, and which contents the table keeps
and which have been given up as duplicates.
-/

namespace QueryLint

namespace Loader

/-- Every content belongs to the unit for which it was loaded. -/
def Names (load : Loader) : Prop :=
  ∀ unit content, load unit = .ok content → content.unit = unit

/-- The content of a unit, if it can be loaded. -/
def content? (load : Loader) (unit : String) : Option Content :=
  (load unit).toOption

/-- The failure of a unit, if it cannot be loaded. -/
def failure? (load : Loader) (unit : String) : Option StageFailure :=
  match load unit with
  | .error error => some ⟨unit, error⟩
  | .ok _ => none

/-- The unit can be loaded. -/
def succeeds (load : Loader) (unit : String) : Bool :=
  (load.content? unit).isSome

/-- The contents are those of the distinct units that can be loaded, in
ascending order of the bytes of their units. -/
structure Distinct (load : Loader) (units : List String)
    (contents : List Content) : Prop where
  ascending : contents.Pairwise fun left right =>
    Text.utf8Bytes left.unit < Text.utf8Bytes right.unit
  mem_iff : ∀ content, content ∈ contents ↔
    content.unit ∈ units ∧ load content.unit = .ok content

/-- What stands before a content in ascending order is all that is below it. -/
theorem Distinct.eq_or_lt_of_not_mem
    {load : Loader} {units : List String} {below above : List Content}
    {content other : Content}
    (distinct : load.Distinct units (below ++ content :: above))
    (member : other ∈ below ++ content :: above) (absent : other ∉ below) :
    other = content ∨ Text.utf8Bytes content.unit <
      Text.utf8Bytes other.unit := by
  obtain ⟨-, fromContent, -⟩ := List.pairwise_append.mp distinct.ascending
  obtain ⟨aboveContent, -⟩ := List.pairwise_cons.mp fromContent
  rcases List.mem_append.mp member with inBelow | later
  · exact absurd inBelow absent
  · exact (List.mem_cons.mp later).imp_right (aboveContent other)

variable {load : Loader} {unit : String}

theorem content?_eq_some_iff {content : Content} :
    load.content? unit = some content ↔ load unit = .ok content := by
  cases result : load unit <;> simp [content?, result, Except.toOption]

theorem failure?_of_ok {content : Content} (loaded : load unit = .ok content) :
    load.failure? unit = none := by
  simp [failure?, loaded]

theorem failure?_of_error {error : StageError}
    (failed : load unit = .error error) :
    load.failure? unit = some ⟨unit, error⟩ := by
  simp [failure?, failed]

theorem content?_of_error {error : StageError}
    (failed : load unit = .error error) :
    load.content? unit = none := by
  simp [content?, failed, Except.toOption]

theorem filterMap_failure?_eq_nil_iff {units : List String} :
    units.filterMap load.failure? = [] ↔
      ∀ unit ∈ units, ∃ content, load unit = .ok content := by
  rw [List.filterMap_eq_nil_iff]
  refine forall₂_congr fun unit _ => ?_
  cases result : load unit <;> simp [failure?, result]

theorem succeeds_of_ok {content : Content} (loaded : load unit = .ok content) :
    load.succeeds unit = true := by
  simp [succeeds, content?, loaded, Except.toOption]

theorem succeeds_of_error {error : StageError}
    (failed : load unit = .error error) :
    load.succeeds unit = false := by
  simp [succeeds, content?_of_error failed]

theorem length_filterMap_content? (load : Loader) (units : List String) :
    (units.filterMap load.content?).length = units.countP load.succeeds := by
  rw [List.length_filterMap_eq_countP]
  rfl

end Loader

/-- The loader of a file system gives every unit content of its own. -/
theorem FileTree.load_names (tree : FileTree) : Loader.Names tree.load := by
  intro unit content loaded
  simp only [FileTree.load] at loaded
  split at loaded
  · cases loaded
    rfl
  · cases loaded
  · cases loaded
    rfl
  · split_ifs at loaded
    cases loaded
    rfl

/-- The loader that takes every unit as a query but one, which names a folder
that cannot be read. -/
def Loader.queriesExcept (folder : String) : Loader := fun unit =>
  if unit = folder then .error (.read unit .isFolder) else .ok (.ofQuery unit)

theorem Loader.queriesExcept_names (folder : String) :
    Loader.Names (queriesExcept folder) := by
  intro unit content loaded
  unfold queriesExcept at loaded
  split_ifs at loaded
  cases loaded
  rfl

/-- In a table that files contents under their own units, the contents are in
ascending order of the bytes of their units. -/
theorem StagingTable.pairwise_contents {table : StagingTable}
    (ascending : Ordered.Ascending table.entries)
    (own : ∀ entry ∈ table.entries, entry.2.unit = entry.1) :
    table.contents.Pairwise fun left right =>
      Text.utf8Bytes left.unit < Text.utf8Bytes right.unit := by
  have ordered : table.entries.Pairwise fun left right =>
      Text.utf8Bytes left.2.unit < Text.utf8Bytes right.2.unit := by
    refine ascending.imp_of_mem ?_
    intro left right leftMember rightMember smaller
    rw [own left leftMember, own right rightMember]
    exact (Text.utf8Bytes_lt_iff _ _).mpr smaller
  exact List.pairwise_map.mpr ordered

/-- The content that the entry gives up, if it does. -/
def Entry.release? : Entry → Option Content
  | released content => some content
  | _ => none

/-- The entry tells of the work alone: it is a log record or gives content
up. -/
def Entry.isInternal : Entry → Bool
  | noted _ => true
  | released _ => true
  | _ => false

namespace Intake

/-- What units amount to once all of them have been taken in. -/
structure Accounts (load : Loader) (units : List String) (intake : Intake) :
    Prop where
  ascending : Ordered.Ascending intake.stager.table.entries
  entries : ∀ unit content, (unit, content) ∈ intake.stager.table.entries ↔
    unit ∈ units ∧ load unit = .ok content
  count : intake.stager.count = units.countP load.succeeds
  failures : intake.failures.Perm (units.filterMap load.failure?)
  releases : (intake.journal.filterMap Entry.release? ++
    intake.stager.table.contents).Perm (units.filterMap load.content?)
  quiet : ∀ entry ∈ intake.journal, entry.isInternal = true

namespace Accounts

variable {load : Loader} {units : List String} {intake : Intake}

/-- The contents that the table hands out. -/
theorem distinct (accounts : Accounts load units intake) (names : load.Names) :
    load.Distinct units intake.stager.takeAll.1 := by
  have own : ∀ entry ∈ intake.stager.table.entries, entry.2.unit = entry.1 := by
    intro entry member
    exact names _ _ ((accounts.entries entry.1 entry.2).mp member).2
  constructor
  · exact StagingTable.pairwise_contents accounts.ascending own
  · intro content
    constructor
    · intro member
      obtain ⟨entry, inTable, rfl⟩ := List.mem_map.mp member
      have known := (accounts.entries entry.1 entry.2).mp inTable
      rw [own entry inTable]
      exact known
    · intro known
      have inTable := (accounts.entries content.unit content).mpr known
      exact List.mem_map.mpr ⟨_, inTable, rfl⟩

theorem mem_takeAll (accounts : Accounts load units intake) (names : load.Names)
    {unit : String} (known : unit ∈ units) {content : Content}
    (loaded : load unit = .ok content) : content ∈ intake.stager.takeAll.1 := by
  obtain rfl := names unit content loaded
  exact ((accounts.distinct names).mem_iff content).mpr ⟨known, loaded⟩

/-- As many contents are given up or handed out as have been counted. -/
theorem length_releases (accounts : Accounts load units intake) :
    (intake.journal.filterMap Entry.release? ++
      intake.stager.takeAll.1).length =
      intake.stager.count := by
  have released : (intake.journal.filterMap Entry.release? ++
      intake.stager.takeAll.1).Perm (units.filterMap load.content?) :=
    accounts.releases
  rw [released.length_eq, load.length_filterMap_content?, accounts.count]

/-- Two ways of taking the same units in keep the same contents and differ in
the order of failures at most. -/
theorem unique
    {otherUnits : List String} {other : Intake}
    (accounts : Accounts load units intake)
    (otherAccounts : Accounts load otherUnits other)
    (sameUnits : units.Perm otherUnits) :
    intake.stager = other.stager ∧ intake.failures.Perm other.failures := by
  have sameEntries :
      intake.stager.table.entries = other.stager.table.entries := by
    apply Ordered.eq_of_ascending accounts.ascending otherAccounts.ascending
    rintro ⟨unit, content⟩
    rw [accounts.entries, otherAccounts.entries, sameUnits.mem_iff]
  have sameCount : intake.stager.count = other.stager.count := by
    rw [accounts.count, otherAccounts.count, sameUnits.countP_eq]
  constructor
  · cases left : intake.stager with
    | mk leftTable leftCount =>
        cases right : other.stager with
        | mk rightTable rightCount =>
            rw [left, right] at sameEntries sameCount
            cases leftTable
            cases rightTable
            simp_all
  · calc
      intake.failures.Perm (units.filterMap load.failure?) := accounts.failures
      _ |>.Perm (otherUnits.filterMap load.failure?) := sameUnits.filterMap _
      _ |>.Perm other.failures := otherAccounts.failures.symm

end Accounts

end Intake

end QueryLint
