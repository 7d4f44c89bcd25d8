import Mathlib.Algebra.GroupWithZero.Nat
import Mathlib.Logic.Relation
import QueryLint.Proofs.Staging.Accounts

/-!
# Staging units side by side

Every unit has a task of its own, and the tasks take their steps in any order:
a task waits for one of a limited number of permits, loads its unit, adds the
content to the table, counts it, says what became of it, and is joined at last.
Whatever the order, the units amount to the same.
-/

namespace QueryLint

namespace Stager

/-- Puts content into the table unless its unit is there, without counting
it. -/
def keep (stager : Stager) (content : Content) : StageOutcome × Stager :=
  match stager.table.insert? content with
  | some table => (.staged, { stager with table := table })
  | none => (.duplicate, stager)

/-- Content whose unit is in the table changes nothing; other content is put
into the table. -/
theorem keep_cases (stager : Stager) (content : Content) :
    (Ordered.has content.unit stager.table.entries = true ∧
      stager.keep content = (.duplicate, stager)) ∨
    (Ordered.has content.unit stager.table.entries = false ∧
      stager.keep content =
        (.staged,
          { stager with
            table :=
              ⟨Ordered.put content.unit content stager.table.entries⟩ })) := by
  cases known : Ordered.has content.unit stager.table.entries with
  | true =>
      refine Or.inl ⟨rfl, ?_⟩
      simp [keep, StagingTable.insert?, StagingTable.has, known]
  | false =>
      refine Or.inr ⟨rfl, ?_⟩
      simp [keep, StagingTable.insert?, StagingTable.has, known]

theorem add_eq_keep_increment (stager : Stager) (content : Content) :
    stager.add content =
      ((stager.keep content).1, (stager.keep content).2.increment) := by
  simp only [add, keep]
  split <;> simp_all [increment]

theorem count_keep (stager : Stager) (content : Content) :
    (stager.keep content).2.count = stager.count := by
  rcases stager.keep_cases content with ⟨-, kept⟩ | ⟨-, kept⟩ <;> rw [kept]

end Stager

/-- How far a task has come. -/
inductive Phase where
  | waiting
  | admitted
  | loaded (content : Content)
  | added (content : Content) (outcome : StageOutcome)
  | counted (content : Content) (outcome : StageOutcome)
  | ended (error? : Option StageError)

namespace Phase

/-- A task in this phase holds a permit. -/
def holdsPermit : Phase → Bool
  | waiting => false
  | ended _ => false
  | _ => true

/-- One step of a task for a unit, with what it changes.  A task is admitted
only while a permit is free. -/
inductive Moves (load : Loader) (unit : String) (isFree : Prop) :
    Phase → Intake → Phase → Intake → Prop where
  | takePermit {intake : Intake} :
      isFree → Moves load unit isFree .waiting intake .admitted intake
  | load {intake : Intake} {content : Content} :
      load unit = .ok content →
      Moves load unit isFree .admitted intake (.loaded content)
        { intake with
          journal := intake.journal ++ content.loadRecords.map .noted }
  | fail {intake : Intake} {error : StageError} :
      load unit = .error error →
      Moves load unit isFree .admitted intake (.ended (some error)) intake
  | add {intake : Intake} {content : Content} :
      Moves load unit isFree (.loaded content) intake
        (.added content (intake.stager.keep content).1)
        { intake with stager := (intake.stager.keep content).2 }
  | count {intake : Intake} {content : Content} {outcome : StageOutcome} :
      Moves load unit isFree (.added content outcome) intake
        (.counted content outcome)
        { intake with stager := intake.stager.increment }
  | finish {intake : Intake} {content : Content} {outcome : StageOutcome} :
      Moves load unit isFree (.counted content outcome) intake (.ended none)
        { intake with
          journal := intake.journal ++ Stager.addEntries content outcome }

end Phase

/-- The task of a unit. -/
structure Task where
  unit : String
  phase : Phase

/-- Tasks that have not been joined yet, and what the units amount to so far. -/
structure Pool where
  tasks : List Task
  intake : Intake

namespace Pool

/-- One task for each unit, none of them admitted. -/
def start (units : List String) : Pool :=
  ⟨units.map fun unit => ⟨unit, .waiting⟩, .start⟩

/-- Number of permits in use. -/
def permits (pool : Pool) : Nat :=
  pool.tasks.countP fun task => task.phase.holdsPermit

/-- One step of any task, or the joining of a task that has ended. -/
inductive Step (load : Loader) (limit : Nat) : Pool → Pool → Prop where
  | move {pool : Pool} {before after : List Task} {unit : String}
      {phase next : Phase} {intake : Intake} :
      pool.tasks = before ++ ⟨unit, phase⟩ :: after →
      Phase.Moves load unit (pool.permits < limit) phase pool.intake
        next intake →
      Step load limit pool ⟨before ++ ⟨unit, next⟩ :: after, intake⟩
  | join {pool : Pool} {before after : List Task} {unit : String}
      {error? : Option StageError} :
      pool.tasks = before ++ ⟨unit, .ended error?⟩ :: after →
      Step load limit pool
        ⟨before ++ after,
          { pool.intake with
            failures := pool.intake.failures ++
              (error?.map fun error => ⟨unit, error⟩).toList }⟩

/-- Tasks for the units, run in some order until all of them have been joined,
come to the intake. -/
def Completes (load : Loader) (limit : Nat) (units : List String)
    (intake : Intake) : Prop :=
  Relation.ReflTransGen (Step load limit) (start units) ⟨[], intake⟩

end Pool

namespace Phase

/-- The phase agrees with what the loader makes of the unit. -/
def Fits (load : Loader) (unit : String) : Phase → Prop
  | waiting => True
  | admitted => True
  | loaded content => load unit = .ok content
  | added content _ => load unit = .ok content
  | counted content _ => load unit = .ok content
  | ended none => ∃ content, load unit = .ok content
  | ended (some error) => load unit = .error error

/-- The task has not put its content into the table yet. -/
def isEarly : Phase → Bool
  | waiting => true
  | admitted => true
  | loaded _ => true
  | _ => false

/-- The task has yet to count its unit. -/
def owesCount (load : Loader) (unit : String) : Phase → Bool
  | waiting => load.succeeds unit
  | admitted => load.succeeds unit
  | loaded _ => true
  | added _ _ => true
  | _ => false

/-- The content that the task has yet to put into the table or to give up. -/
def owned? (load : Loader) (unit : String) : Phase → Option Content
  | waiting => load.content? unit
  | admitted => load.content? unit
  | loaded content => some content
  | added content .duplicate => some content
  | counted content .duplicate => some content
  | _ => none

variable {load : Loader} {unit : String} {isFree : Prop}
  {phase next : Phase} {intake after : Intake}

theorem Moves.fits (moves : Moves load unit isFree phase intake next after)
    (fits : phase.Fits load unit) : next.Fits load unit := by
  cases moves with
  | takePermit => trivial
  | load loaded => exact loaded
  | fail failed => exact failed
  | add => exact fits
  | count => exact fits
  | finish => exact ⟨_, fits⟩

theorem Moves.failures
    (moves : Moves load unit isFree phase intake next after) :
    after.failures = intake.failures := by
  cases moves <;> rfl

theorem Moves.owesCount
    (moves : Moves load unit isFree phase intake next after) :
    after.stager.count + (next.owesCount load unit).toNat =
      intake.stager.count + (phase.owesCount load unit).toNat := by
  cases moves with
  | takePermit => rfl
  | load loaded => simp [Phase.owesCount, Loader.succeeds_of_ok loaded]
  | fail failed => simp [Phase.owesCount, Loader.succeeds_of_error failed]
  | add => simp [Phase.owesCount, Stager.count_keep]
  | count => simp [Phase.owesCount, Stager.increment]
  | finish => rfl

theorem Moves.quiet (moves : Moves load unit isFree phase intake next after)
    (quiet : ∀ entry ∈ intake.journal, entry.isInternal = true) :
    ∀ entry ∈ after.journal, entry.isInternal = true := by
  cases moves with
  | takePermit => exact quiet
  | fail => exact quiet
  | add => exact quiet
  | count => exact quiet
  | load loaded =>
      intro entry member
      rcases List.mem_append.mp member with old | new
      · exact quiet entry old
      · obtain ⟨record, -, rfl⟩ := List.mem_map.mp new
        rfl
  | @finish _ content outcome =>
      intro entry member
      rcases List.mem_append.mp member with old | new
      · exact quiet entry old
      · cases outcome with
        | staged =>
            rw [List.mem_singleton.mp new]
            rfl
        | duplicate =>
            simp only [Stager.addEntries, List.mem_cons, List.not_mem_nil,
              or_false] at new
            rcases new with rfl | rfl <;> rfl

private theorem release?_noted (records : List Log.Record) :
    (records.map Entry.noted).filterMap Entry.release? = [] := by
  simp [List.filterMap_map, Function.comp_def, Entry.release?]

/-- No content is lost or doubled: what a task puts into the table or gives up
is what it owned before. -/
theorem Moves.contents
    (moves : Moves load unit isFree phase intake next after) :
    (phase.Fits load unit) →
    (after.journal.filterMap Entry.release? ++ (after.stager.table.contents ++
        (next.owned? load unit).toList)).Perm
      (intake.journal.filterMap Entry.release? ++
        (intake.stager.table.contents ++
        (phase.owned? load unit).toList)) := by
  intro fits
  cases moves with
  | takePermit => exact List.Perm.refl _
  | load loaded =>
      have content := Loader.content?_eq_some_iff.mpr loaded
      simp only [List.filterMap_append, release?_noted, List.append_nil, owned?,
        content]
      exact List.Perm.refl _
  | fail failed =>
      simp only [owned?, Loader.content?_of_error failed]
      exact List.Perm.refl _
  | @add _ content =>
      rcases intake.stager.keep_cases content with ⟨-, kept⟩ | ⟨absent, kept⟩
      · rw [kept]
        exact List.Perm.refl _
      · rw [kept]
        have added := (Ordered.put_perm_of_not_has absent content).map Prod.snd
        apply List.Perm.append_left
        simp only [owned?, Option.toList_none, Option.toList_some,
          List.append_nil]
        exact added.trans (List.perm_append_singleton _ _).symm
  | @count _ content outcome =>
      cases outcome <;> exact List.Perm.refl _
  | @finish _ content outcome =>
      cases outcome with
      | staged =>
          simp only [Stager.addEntries, List.filterMap_append]
          exact List.Perm.of_eq (by simp [Entry.release?, owned?])
      | duplicate =>
          simp only [Stager.addEntries, List.filterMap_append,
            List.filterMap_cons, Entry.release?, List.filterMap_nil, owned?,
            Option.toList_none, Option.toList_some, List.append_nil,
            List.append_assoc]
          exact List.Perm.append_left _ List.perm_append_comm

/-- A step keeps the table in order, and what it adds is the task's content. -/
theorem Moves.entries (moves : Moves load unit isFree phase intake next after)
    (names : load.Names) (fits : phase.Fits load unit) :
    (Ordered.Ascending intake.stager.table.entries →
      Ordered.Ascending after.stager.table.entries) ∧
    ∀ entry ∈ after.stager.table.entries,
      entry ∈ intake.stager.table.entries ∨
        (entry.1 = unit ∧ load unit = .ok entry.2) := by
  cases moves with
  | takePermit => exact ⟨id, fun _ member => Or.inl member⟩
  | load => exact ⟨id, fun _ member => Or.inl member⟩
  | fail => exact ⟨id, fun _ member => Or.inl member⟩
  | count => exact ⟨id, fun _ member => Or.inl member⟩
  | finish => exact ⟨id, fun _ member => Or.inl member⟩
  | @add _ content =>
      rcases intake.stager.keep_cases content with ⟨-, kept⟩ | ⟨-, kept⟩
      · rw [kept]
        exact ⟨id, fun _ member => Or.inl member⟩
      · rw [kept]
        refine ⟨fun ascending => Ordered.ascending_put ascending _ _, ?_⟩
        intro entry member
        rcases Ordered.eq_or_mem_of_mem_put member with rfl | old
        · exact Or.inr ⟨names _ _ fits, fits⟩
        · exact Or.inl old

/-- A unit in the table stays there, and a task that is past adding its content
has its unit there. -/
theorem Moves.keys (moves : Moves load unit isFree phase intake next after)
    (names : load.Names) (fits : phase.Fits load unit) :
    (∀ key, Ordered.has key intake.stager.table.entries = true →
      Ordered.has key after.stager.table.entries = true) ∧
    (phase.isEarly = true → next.isEarly = true ∨ load.succeeds unit = false ∨
      Ordered.has unit after.stager.table.entries = true) := by
  cases moves with
  | takePermit => exact ⟨fun _ known => known, fun _ => Or.inl rfl⟩
  | load => exact ⟨fun _ known => known, fun _ => Or.inl rfl⟩
  | fail failed =>
      exact ⟨fun _ known => known,
        fun _ => Or.inr (Or.inl (Loader.succeeds_of_error failed))⟩
  | count => exact ⟨fun _ known => known, fun early => by cases early⟩
  | finish => exact ⟨fun _ known => known, fun early => by cases early⟩
  | @add _ content =>
      have own : content.unit = unit := names _ _ fits
      rcases intake.stager.keep_cases content with ⟨known, kept⟩ | ⟨-, kept⟩
      · rw [kept]
        exact ⟨fun _ known => known, fun _ => Or.inr (Or.inr (own ▸ known))⟩
      · rw [kept]
        constructor
        · intro key known
          by_cases same : key = content.unit
          · simp [Ordered.has, same]
          · simpa [Ordered.has, Ordered.find?_put_of_ne same] using known
        · intro _
          simp [Ordered.has, own]

end Phase

namespace Pool

variable {load : Loader} {limit : Nat} {units : List String}

/-- What holds of a pool while the tasks of the units run: together with what
its tasks have yet to do, the pool amounts to the units. -/
structure Sound (load : Loader) (units : List String) (pool : Pool) : Prop where
  fits : ∀ task ∈ pool.tasks, task.phase.Fits load task.unit
  ascending : Ordered.Ascending pool.intake.stager.table.entries
  entries : ∀ entry ∈ pool.intake.stager.table.entries,
    entry.1 ∈ units ∧ load entry.1 = .ok entry.2
  tasks : ∀ task ∈ pool.tasks, task.unit ∈ units
  covered : ∀ unit ∈ units, load.succeeds unit = true →
    Ordered.has unit pool.intake.stager.table.entries = true ∨
      ∃ task ∈ pool.tasks, task.unit = unit ∧ task.phase.isEarly = true
  count : pool.intake.stager.count +
    pool.tasks.countP (fun task => task.phase.owesCount load task.unit) =
      units.countP load.succeeds
  failures : (pool.intake.failures ++
    pool.tasks.filterMap fun task => load.failure? task.unit).Perm
      (units.filterMap load.failure?)
  releases : (pool.intake.journal.filterMap Entry.release? ++
    (pool.intake.stager.table.contents ++
      pool.tasks.filterMap fun task => task.phase.owned? load task.unit)).Perm
        (units.filterMap load.content?)
  quiet : ∀ entry ∈ pool.intake.journal, entry.isInternal = true

theorem sound_start (load : Loader) (units : List String) :
    Sound load units (start units) := by
  have waiting : ∀ task ∈ (start units).tasks,
      task.phase = .waiting ∧ task.unit ∈ units := by
    intro task member
    obtain ⟨unit, known, rfl⟩ := List.mem_map.mp member
    exact ⟨rfl, known⟩
  constructor
  · intro task member
    rw [(waiting task member).1]
    trivial
  · exact List.Pairwise.nil
  · intro entry member
    cases member
  · intro task member
    exact (waiting task member).2
  · intro unit known _
    exact Or.inr ⟨⟨unit, .waiting⟩, List.mem_map.mpr ⟨unit, known, rfl⟩, rfl,
      rfl⟩
  · simp [start, Intake.start, Stager.start, List.countP_map, Function.comp_def,
      Phase.owesCount]
  · simp [start, Intake.start, List.filterMap_map]
  · simp [start, Intake.start, Stager.start, StagingTable.empty,
      StagingTable.contents, Ordered.values, List.filterMap_map, Phase.owned?]
  · intro entry member
    cases member

private theorem filterMap_middle {α β : Type} (function : α → Option β)
    (before after : List α) (item : α) :
    (before ++ item :: after).filterMap function =
      before.filterMap function ++
        ((function item).toList ++ after.filterMap function) := by
  cases result : function item <;> simp [result]

private theorem gather {α : Type} (first second before own after : List α) :
    (first ++ (second ++ (before ++ (own ++ after)))).Perm
      ((first ++ (second ++ own)) ++ (before ++ after)) := by
  simp only [List.append_assoc]
  exact ((List.perm_append_comm_assoc before own after).append_left
    second).append_left first

private theorem sound_move
    {before after : List Task} {unit : String} {phase next : Phase}
    {intake moved : Intake} {isFree : Prop}
    (names : load.Names)
    (sound : Sound load units ⟨before ++ ⟨unit, phase⟩ :: after, intake⟩)
    (moves : Phase.Moves load unit isFree phase intake next moved) :
    Sound load units ⟨before ++ ⟨unit, next⟩ :: after, moved⟩ := by
  have fits : phase.Fits load unit := sound.fits ⟨unit, phase⟩ (by simp)
  have known : unit ∈ units := sound.tasks ⟨unit, phase⟩ (by simp)
  constructor
  · intro task member
    rcases List.mem_append.mp member with early | late
    · exact sound.fits task (List.mem_append_left _ early)
    · rcases List.mem_cons.mp late with rfl | late
      · exact moves.fits fits
      · exact sound.fits task
          (List.mem_append_right _ (List.mem_cons_of_mem _ late))
  · exact (moves.entries names fits).1 sound.ascending
  · intro entry member
    rcases (moves.entries names fits).2 entry member with old | ⟨own, loaded⟩
    · exact sound.entries entry old
    · rw [own]
      exact ⟨known, loaded⟩
  · intro task member
    rcases List.mem_append.mp member with early | late
    · exact sound.tasks task (List.mem_append_left _ early)
    · rcases List.mem_cons.mp late with rfl | late
      · exact known
      · exact sound.tasks task
          (List.mem_append_right _ (List.mem_cons_of_mem _ late))
  · intro other otherKnown succeeds
    obtain ⟨keep, reach⟩ := moves.keys names fits
    rcases sound.covered other otherKnown succeeds with
      inTable | ⟨task, member, own, early⟩
    · exact Or.inl (keep other inTable)
    · rcases List.mem_append.mp member with first | later
      · exact Or.inr ⟨task, List.mem_append_left _ first, own, early⟩
      · rcases List.mem_cons.mp later with rfl | later
        · rcases reach early with still | fails | inTable
          · exact Or.inr ⟨⟨unit, next⟩, by simp, own, still⟩
          · rw [← own, fails] at succeeds
            cases succeeds
          · exact Or.inl (own ▸ inTable)
        · exact Or.inr ⟨task,
            List.mem_append_right _ (List.mem_cons_of_mem _ later), own, early⟩
  · have whole := sound.count
    have local' := moves.owesCount
    simp only [List.countP_append, List.countP_cons] at whole ⊢
    cases old : phase.owesCount load unit <;>
      cases new : next.owesCount load unit <;>
      simp_all <;> omega
  · have whole := sound.failures
    rw [moves.failures]
    simp only [filterMap_middle] at whole ⊢
    exact whole
  · have whole := sound.releases
    have parts := (moves.contents fits).append_right
      ((before.filterMap fun task => task.phase.owned? load task.unit) ++
        after.filterMap fun task => task.phase.owned? load task.unit)
    simp only [filterMap_middle] at whole ⊢
    exact (gather _ _ _ _ _).trans
      (parts.trans ((gather _ _ _ _ _).symm.trans whole))
  · exact moves.quiet sound.quiet

private theorem sound_join
    {before after : List Task} {unit : String} {error? : Option StageError}
    {intake : Intake}
    (sound : Sound load units
      ⟨before ++ ⟨unit, .ended error?⟩ :: after, intake⟩) :
    Sound load units
      ⟨before ++ after,
        { intake with
          failures := intake.failures ++
            (error?.map fun error => ⟨unit, error⟩).toList }⟩ := by
  have fits : (Phase.ended error?).Fits load unit :=
    sound.fits ⟨unit, .ended error?⟩ (by simp)
  have stays : ∀ task ∈ before ++ after,
      task ∈ before ++ ⟨unit, .ended error?⟩ :: after := by
    intro task member
    rcases List.mem_append.mp member with early | late
    · exact List.mem_append_left _ early
    · exact List.mem_append_right _ (List.mem_cons_of_mem _ late)
  constructor
  · exact fun task member => sound.fits task (stays task member)
  · exact sound.ascending
  · exact sound.entries
  · exact fun task member => sound.tasks task (stays task member)
  · intro other known succeeds
    rcases sound.covered other known succeeds with
      inTable | ⟨task, member, own, early⟩
    · exact Or.inl inTable
    · rcases List.mem_append.mp member with first | later
      · exact Or.inr ⟨task, List.mem_append_left _ first, own, early⟩
      · rcases List.mem_cons.mp later with rfl | later
        · cases early
        · exact Or.inr ⟨task, List.mem_append_right _ later, own, early⟩
  · have whole := sound.count
    simpa [List.countP_append, List.countP_cons, Phase.owesCount] using whole
  · have whole := sound.failures
    have own : (error?.map fun error => (⟨unit, error⟩ : StageFailure)) =
        load.failure? unit := by
      cases error? with
      | none =>
          obtain ⟨content, loaded⟩ := fits
          exact (Loader.failure?_of_ok loaded).symm
      | some error => exact (Loader.failure?_of_error fits).symm
    simp only [filterMap_middle] at whole
    simp only [own, List.filterMap_append, List.append_assoc]
    exact ((List.perm_append_comm_assoc _ _ _).append_left _).trans whole
  · have whole := sound.releases
    have nothing : (Phase.ended error?).owned? load unit = none := rfl
    simp only [filterMap_middle, nothing, Option.toList_none,
      List.nil_append] at whole
    simpa using whole
  · exact sound.quiet

theorem Step.sound {pool later : Pool} (step : Step load limit pool later)
    (names : load.Names) (sound : Sound load units pool) :
    Sound load units later := by
  obtain ⟨tasks, intake⟩ := pool
  cases step with
  | move split moves =>
      subst split
      exact sound_move names sound moves
  | join split =>
      subst split
      exact sound_join sound

theorem sound_of_reached {pool : Pool} (names : load.Names)
    (reached : Relation.ReflTransGen (Step load limit) (start units) pool) :
    Sound load units pool := by
  induction reached with
  | refl => exact sound_start load units
  | tail _ step ih => exact step.sound names ih

/-- Tasks run in any order amount to the units. -/
theorem Completes.accounts {intake : Intake}
    (completes : Completes load limit units intake) (names : load.Names) :
    intake.Accounts load units := by
  have sound := sound_of_reached names completes
  constructor
  · exact sound.ascending
  · intro unit content
    constructor
    · exact sound.entries (unit, content)
    · rintro ⟨known, loaded⟩
      have succeeds := Loader.succeeds_of_ok loaded
      rcases sound.covered unit known succeeds with inTable | ⟨task, member, -⟩
      · obtain ⟨present, found⟩ := Option.isSome_iff_exists.mp inTable
        have entry := (Ordered.find?_eq_some_iff sound.ascending).mp found
        have same : present = content := by
          have presentLoaded := (sound.entries _ entry).2
          rw [loaded] at presentLoaded
          exact (Except.ok.inj presentLoaded).symm
        exact same ▸ entry
      · cases member
  · simpa using sound.count
  · simpa using sound.failures
  · simpa using sound.releases
  · exact sound.quiet

/-- As long as a task is left, some task can take a step. -/
theorem exists_step {pool : Pool} (unfinished : pool.tasks ≠ [])
    (positive : 0 < limit) (load : Loader) :
    ∃ later, Step load limit pool later := by
  by_cases busy : ∃ task ∈ pool.tasks, task.phase ≠ .waiting
  · obtain ⟨⟨unit, phase⟩, member, started⟩ := busy
    obtain ⟨before, after, split⟩ := List.append_of_mem member
    cases phase with
    | waiting => exact absurd rfl started
    | admitted =>
        cases result : load unit with
        | ok content => exact ⟨_, .move split (.load result)⟩
        | error error => exact ⟨_, .move split (.fail result)⟩
    | loaded content => exact ⟨_, .move split .add⟩
    | added content outcome => exact ⟨_, .move split .count⟩
    | counted content outcome => exact ⟨_, .move split .finish⟩
    | ended error? => exact ⟨_, .join split⟩
  · have allWaiting : ∀ task ∈ pool.tasks, task.phase = .waiting := by
      intro task member
      by_contra started
      exact busy ⟨task, member, started⟩
    have free : pool.permits < limit := by
      have none : pool.permits = 0 := by
        rw [permits, List.countP_eq_zero]
        intro task member
        simp [allWaiting task member, Phase.holdsPermit]
      omega
    obtain ⟨⟨unit, phase⟩, rest, split⟩ := List.exists_cons_of_ne_nil unfinished
    have waiting : phase = .waiting :=
      allWaiting ⟨unit, phase⟩ (split ▸ List.mem_cons_self)
    subst waiting
    exact ⟨_, @Step.move load limit pool [] rest unit _ _ _ split
      (.takePermit free)⟩

end Pool

/-- Number of steps that a task in this phase has still to take. -/
def Phase.remaining : Phase → Nat
  | waiting => 6
  | admitted => 5
  | loaded _ => 4
  | added _ _ => 3
  | counted _ _ => 2
  | ended _ => 1

namespace Pool

variable {load : Loader} {limit : Nat} {units : List String}

/-- Number of steps that the tasks have still to take at most. -/
def remaining (pool : Pool) : Nat :=
  (pool.tasks.map fun task => task.phase.remaining).sum

private theorem step_first {unit : String} {phase next : Phase}
    {intake after : Intake} {rest : List Task}
    (moves : Phase.Moves load unit
      (permits ⟨⟨unit, phase⟩ :: rest, intake⟩ < limit) phase intake
      next after) :
    Step load limit ⟨⟨unit, phase⟩ :: rest, intake⟩
      ⟨⟨unit, next⟩ :: rest, after⟩ :=
  @Step.move load limit ⟨⟨unit, phase⟩ :: rest, intake⟩
    [] rest unit _ _ _ rfl moves

private theorem join_first
    {unit : String} {error? : Option StageError} {intake : Intake}
    {rest : List Task} :
    Step load limit ⟨⟨unit, .ended error?⟩ :: rest, intake⟩
      ⟨rest, { intake with
        failures := intake.failures ++
          (error?.map fun error => ⟨unit, error⟩).toList }⟩ :=
  @Step.join load limit ⟨⟨unit, .ended error?⟩ :: rest, intake⟩
    [] rest unit _ rfl

/-- The first task can take all its steps before any other. -/
private theorem reaches_rest
    {rest : List Task} (idle : ∀ task ∈ rest, task.phase = .waiting)
    (positive : 0 < limit) (unit : String) (intake : Intake) :
    Relation.ReflTransGen (Step load limit)
      ⟨⟨unit, .waiting⟩ :: rest, intake⟩ ⟨rest, intake.step load unit⟩ := by
  have free : permits ⟨⟨unit, .waiting⟩ :: rest, intake⟩ < limit := by
    have none : permits ⟨⟨unit, .waiting⟩ :: rest, intake⟩ = 0 := by
      rw [permits, List.countP_eq_zero]
      intro task member
      rcases List.mem_cons.mp member with rfl | member
      · simp [Phase.holdsPermit]
      · simp [idle task member, Phase.holdsPermit]
    omega
  have admitted : Relation.ReflTransGen (Step load limit)
      ⟨⟨unit, .waiting⟩ :: rest, intake⟩ ⟨⟨unit, .admitted⟩ :: rest, intake⟩ :=
    .single (step_first (.takePermit free))
  cases result : load unit with
  | error error =>
      have ended := (admitted.tail (step_first (.fail result))).tail join_first
      simpa [Intake.step, Stager.stage, Stager.stageEntries, result] using ended
  | ok content =>
      have finished := ((((admitted.tail (step_first (.load result))).tail
        (step_first .add)).tail (step_first .count)).tail
          (step_first .finish)).tail join_first
      simpa [Intake.step, Stager.stage, Stager.stageEntries, result,
        Stager.add_eq_keep_increment] using finished

/-- Taking units in one after the other is one of the orders. -/
theorem completes_ofUnits (positive : 0 < limit) (load : Loader)
    (units : List String) :
    Completes load limit units (Intake.ofUnits load units) := by
  have general : ∀ intake, Relation.ReflTransGen (Step load limit)
      ⟨units.map fun unit => ⟨unit, .waiting⟩, intake⟩
      ⟨[], units.foldl (Intake.step load) intake⟩ := by
    induction units with
    | nil => exact fun _ => .refl
    | cons unit rest ih =>
        intro intake
        have idle : ∀ task ∈ rest.map fun unit => (⟨unit, .waiting⟩ : Task),
            task.phase = .waiting := by
          intro task member
          obtain ⟨_, -, rfl⟩ := List.mem_map.mp member
          rfl
        exact (reaches_rest idle positive unit intake).trans (ih _)
  exact general .start

end Pool

end QueryLint
