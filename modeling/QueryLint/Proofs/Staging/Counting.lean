import Mathlib
import QueryLint.Proofs.History
import QueryLint.Proofs.Staging.History

/-!
# What a stager owes to its history

A stager is asked to stage units, to hand out what it has staged, and to start
counting again, each at any time; the file system may be another one at every
call.  The count and the table go back to different moments.  The count is that
of the units loaded since the last reset, duplicates included, and the table has
the first content of each unit loaded since it was last emptied.
-/

namespace QueryLint

/-- A file system at some moment: every unit has content of its own there, or an
error. -/
structure Storage where
  load : Loader
  names : load.Names

/-- The units as a tree has them. -/
def FileTree.storage (tree : FileTree) : Storage :=
  ⟨tree.load, tree.load_names⟩

/-- What a stager is asked. -/
inductive StagerRequest where
  | stage (storage : Storage) (unit : String)
  | takeAll
  | reset

/-- What a stager answers. -/
inductive StagerAnswer where
  | result (result : Except StageError StageOutcome)
  | contents (contents : List Content)
  | done

namespace StagerRequest

def empties : StagerRequest → Bool
  | takeAll => true
  | _ => false

def resets : StagerRequest → Bool
  | reset => true
  | _ => false

end StagerRequest

namespace Stager

def answer (stager : Stager) : StagerRequest → StagerAnswer × Stager
  | .stage storage unit =>
      let (result, after) := stager.stage storage.load unit
      (.result result, after)
  | .takeAll =>
      let (contents, after) := stager.takeAll
      (.contents contents, after)
  | .reset => (.done, stager.reset)

/-- The requests with their answers, and the stager after them. -/
def serve (requests : List StagerRequest) :
    History StagerRequest StagerAnswer × Stager :=
  History.serve answer start requests

/-- The call has staged a unit, or has found it staged. -/
def counts : StagerRequest × StagerAnswer → Bool
  | (_, .result (.ok _)) => true
  | _ => false

/-- The content that the call has loaded, if it did. -/
def loaded? : StagerRequest × StagerAnswer → Option Content
  | (.stage storage unit, _) => storage.load.content? unit
  | _ => none

/-- How many calls since the last reset have staged a unit or found it
staged. -/
def countSinceReset (history : History StagerRequest StagerAnswer) : Nat :=
  (History.since StagerRequest.resets history).countP counts

/-- What has been loaded since the stager last handed out what it had. -/
def loadedSinceTaken (history : History StagerRequest StagerAnswer) :
    List Content :=
  (History.since StagerRequest.empties history).filterMap loaded?

section

variable (history : History StagerRequest StagerAnswer)
  {request : StagerRequest}

theorem countSinceReset_concat (goesOn : request.resets = false)
    (answer : StagerAnswer) :
    countSinceReset (history ++ [(request, answer)]) =
      countSinceReset history + if counts (request, answer) then 1 else 0 := by
  rw [countSinceReset, History.since_concat _ history goesOn,
    List.countP_append, List.countP_singleton]
  rfl

theorem countSinceReset_reset (answer : StagerAnswer) :
    countSinceReset (history ++ [(.reset, answer)]) = 0 := by
  rw [countSinceReset, History.since_concat_of_kind _ history rfl]
  rfl

theorem loadedSinceTaken_concat (goesOn : request.empties = false)
    (answer : StagerAnswer) :
    loadedSinceTaken (history ++ [(request, answer)]) =
      loadedSinceTaken history ++ (loaded? (request, answer)).toList :=
  History.filterMap_since_concat _ _ history goesOn answer

theorem loadedSinceTaken_taken (answer : StagerAnswer) :
    loadedSinceTaken (history ++ [(.takeAll, answer)]) = [] :=
  History.filterMap_since_concat_of_kind _ _ history rfl answer

end

section

variable (stager : Stager) {storage : Storage} {unit : String}

theorem stage_of_error {error : StageError}
    (failed : storage.load unit = .error error) :
    stager.stage storage.load unit = (.error error, stager) := by
  rw [stage, failed]

/-- A unit that can be loaded is a duplicate exactly if the table has it. -/
theorem stage_of_ok {content : Content}
    (loaded : storage.load unit = .ok content) :
    stager.stage storage.load unit =
      (.ok (if stager.table.has unit then .duplicate else .staged),
        ⟨(stager.table.answer (.insert content)).2, stager.count + 1⟩) := by
  obtain rfl := storage.names unit content loaded
  simp only [stage, loaded, add, StagingTable.answer, StagingTable.insert?]
  cases stager.table.has content.unit <;> rfl

end

/-- The stager has the count and the contents that the history says.  Its table
has been asked to take what has been loaded, in the same order. -/
structure Recounts (stager : Stager)
    (history : History StagerRequest StagerAnswer) :
    Prop where
  count : stager.count = countSinceReset history
  table : ∃ asked, stager.table.Holds asked ∧
    StagingTable.offered asked = loadedSinceTaken history

namespace Recounts

variable {stager : Stager} {history : History StagerRequest StagerAnswer}

theorem start : Stager.start.Recounts [] :=
  ⟨rfl, [], .empty, rfl⟩

/-- A unit that cannot be loaded leaves the count and the table as they are. -/
theorem failed (recounts : stager.Recounts history) {storage : Storage}
    {unit : String} {error : StageError}
    (fails : storage.load unit = .error error) :
    stager.Recounts (history ++
      [(.stage storage unit, .result (.error error))]) := by
  obtain ⟨asked, holds, offered⟩ := recounts.table
  refine ⟨?_, asked, holds, ?_⟩
  · rw [countSinceReset_concat history rfl]
    exact recounts.count
  · rw [loadedSinceTaken_concat history rfl, loaded?,
      Loader.content?_of_error fails, offered]
    exact (List.append_nil _).symm

/-- A unit that can be loaded counts, whether or not the table takes its
content. -/
theorem loaded (recounts : stager.Recounts history) {storage : Storage}
    {unit : String} {content : Content}
    (loads : storage.load unit = .ok content) (outcome : StageOutcome) :
    Recounts ⟨(stager.table.answer (.insert content)).2, stager.count + 1⟩
      (history ++ [(.stage storage unit, .result (.ok outcome))]) := by
  obtain ⟨asked, holds, offered⟩ := recounts.table
  refine ⟨?_, _, holds.step (.insert content), ?_⟩
  · rw [countSinceReset_concat history rfl, ← recounts.count]
    rfl
  · rw [StagingTable.offered_insert, loadedSinceTaken_concat history rfl,
      loaded?, Loader.content?_eq_some_iff.mpr loads, offered]
    rfl

theorem taken (recounts : stager.Recounts history) (contents : List Content) :
    Recounts { stager with table := .empty }
      (history ++ [(.takeAll, .contents contents)]) := by
  refine ⟨?_, [], .empty, (loadedSinceTaken_taken history _).symm⟩
  rw [countSinceReset_concat history rfl]
  exact recounts.count

theorem reset (recounts : stager.Recounts history) :
    stager.reset.Recounts (history ++ [(.reset, .done)]) := by
  obtain ⟨asked, holds, offered⟩ := recounts.table
  refine ⟨(countSinceReset_reset history _).symm, asked, holds, ?_⟩
  rw [loadedSinceTaken_concat history rfl, offered]
  exact (List.append_nil _).symm

/-- One more request and its answer go into the history. -/
theorem step (recounts : stager.Recounts history) (request : StagerRequest) :
    (stager.answer request).2.Recounts
      (history ++ [(request, (stager.answer request).1)]) := by
  cases request with
  | stage storage unit =>
      rw [answer]
      cases loads : storage.load unit with
      | error error =>
          rw [stage_of_error stager loads]
          exact recounts.failed loads
      | ok content =>
          rw [stage_of_ok stager loads]
          exact recounts.loaded loads _
  | takeAll => exact recounts.taken _
  | reset => exact recounts.reset

theorem serve (requests : List StagerRequest) :
    (Stager.serve requests).2.Recounts (Stager.serve requests).1 :=
  History.serve_induction start
    (fun _ _ request recounts => recounts.step request) requests

/-- The table has the first content of each unit, and it has each unit once. -/
theorem entries (recounts : stager.Recounts history) :
    (Ordered.keys stager.table.entries).Nodup ∧
      ∀ unit content, (unit, content) ∈ stager.table.entries ↔
        (loadedSinceTaken history).find? (fun other => other.unit == unit) =
          some content := by
  obtain ⟨asked, holds, offered⟩ := recounts.table
  constructor
  · exact (Ordered.ascending_iff.mp holds.ascending).imp ne_of_lt
  · intro unit content
    rw [← offered, ← holds.first, Ordered.find?_eq_some_iff holds.ascending]

end Recounts

end Stager

end QueryLint
