import QueryLint.Proofs.History
import QueryLint.Proofs.Staging.Accounts

/-!
# What a staging table owes to its history

A table is asked to take contents, to say what it has, and to hand all of it
out.  Whatever it has been asked before, it has the contents that it has
accepted since it was last emptied: the first one of each unit that came since
then.
-/

namespace QueryLint

/-- What a staging table is asked. -/
inductive TableRequest where
  | insert (content : Content)
  | has (unit : String)
  | size
  | isEmpty
  | takeAll
  deriving DecidableEq, Repr

/-- What a staging table answers; content that is not accepted is given back. -/
inductive TableAnswer where
  | accepted
  | rejected (content : Content)
  | flag (state : Bool)
  | count (size : Nat)
  | contents (contents : List Content)
  deriving DecidableEq, Repr

/-- The table has nothing afterwards. -/
def TableRequest.empties : TableRequest → Bool
  | takeAll => true
  | _ => false

namespace StagingTable

def answer (table : StagingTable) : TableRequest → TableAnswer × StagingTable
  | .insert content =>
      match table.insert? content with
      | some after => (.accepted, after)
      | none => (.rejected content, table)
  | .has unit => (.flag (table.has unit), table)
  | .size => (.count table.size, table)
  | .isEmpty => (.flag table.isEmpty, table)
  | .takeAll =>
      let (contents, after) := table.takeAll
      (.contents contents, after)

/-- The requests with their answers, and the table after them. -/
def serve (requests : List TableRequest) :
    History TableRequest TableAnswer × StagingTable :=
  History.serve answer empty requests

/-- The content that the table was asked to take, if it was asked to take
one. -/
def offered? : TableRequest × TableAnswer → Option Content
  | (.insert content, _) => some content
  | _ => none

/-- The content that the table has accepted, if it did. -/
def accepted? : TableRequest × TableAnswer → Option Content
  | (.insert content, .accepted) => some content
  | _ => none

def offered (history : History TableRequest TableAnswer) : List Content :=
  (history.since TableRequest.empties).filterMap offered?

def accepted (history : History TableRequest TableAnswer) : List Content :=
  (history.since TableRequest.empties).filterMap accepted?

section

variable (history : History TableRequest TableAnswer) {request : TableRequest}

theorem offered_concat (goesOn : request.empties = false)
    (answer : TableAnswer) :
    offered (history ++ [(request, answer)]) =
      offered history ++ (offered? (request, answer)).toList :=
  History.filterMap_since_concat _ _ history goesOn answer

theorem accepted_concat (goesOn : request.empties = false)
    (answer : TableAnswer) :
    accepted (history ++ [(request, answer)]) =
      accepted history ++ (accepted? (request, answer)).toList :=
  History.filterMap_since_concat _ _ history goesOn answer

theorem offered_taken (answer : TableAnswer) :
    offered (history ++ [(.takeAll, answer)]) = [] :=
  History.filterMap_since_concat_of_kind _ _ history rfl answer

theorem accepted_taken (answer : TableAnswer) :
    accepted (history ++ [(.takeAll, answer)]) = [] :=
  History.filterMap_since_concat_of_kind _ _ history rfl answer

theorem offered_insert (content : Content) (answer : TableAnswer) :
    offered (history ++ [(.insert content, answer)]) =
      offered history ++ [content] :=
  offered_concat history rfl answer

theorem accepted_insert (content : Content) (answer : TableAnswer) :
    accepted (history ++ [(.insert content, answer)]) =
      accepted history ++ if answer = .accepted then [content] else [] := by
  rw [accepted_concat history rfl]
  cases answer <;> rfl

end

/-- The table has the contents that the history says. -/
structure Holds (table : StagingTable)
    (history : History TableRequest TableAnswer) : Prop where
  ascending : Ordered.Ascending table.entries
  own : ∀ entry ∈ table.entries, entry.2.unit = entry.1
  accepted : table.contents.Perm (accepted history)
  first : ∀ unit, Ordered.find? unit table.entries =
    (offered history).find? fun content => content.unit == unit

namespace Holds

variable {table : StagingTable} {history : History TableRequest TableAnswer}

theorem empty : StagingTable.empty.Holds [] :=
  ⟨.nil, nofun, .refl _, fun _ => rfl⟩

/-- A request that is neither to take a content nor to hand out all changes
nothing. -/
theorem asked (holds : table.Holds history) (request : TableRequest)
    (goesOn : request.empties = false)
    (idle : ∀ content, request ≠ .insert content) (answer : TableAnswer) :
    table.Holds (history ++ [(request, answer)]) := by
  obtain ⟨offers, accepts⟩ : offered? (request, answer) = none ∧
      accepted? (request, answer) = none := by
    cases request with
    | insert content => exact absurd rfl (idle content)
    | _ => exact ⟨rfl, rfl⟩
  refine ⟨holds.ascending, holds.own, ?_, ?_⟩
  · rw [accepted_concat history goesOn, accepts]
    simpa using holds.accepted
  · rw [offered_concat history goesOn, offers]
    simpa using holds.first

theorem taken (history : History TableRequest TableAnswer)
    (answer : TableAnswer) :
    StagingTable.empty.Holds (history ++ [(.takeAll, answer)]) := by
  refine ⟨.nil, nofun, ?_, ?_⟩
  · rw [accepted_taken]
    exact .refl _
  · rw [offered_taken]
    exact fun _ => rfl

theorem rejected (holds : table.Holds history) {content : Content}
    (known : table.has content.unit = true) :
    table.Holds (history ++ [(.insert content, .rejected content)]) := by
  obtain ⟨kept, found⟩ := Option.isSome_iff_exists.mp known
  refine ⟨holds.ascending, holds.own, ?_, fun unit => ?_⟩
  · rw [accepted_insert, if_neg nofun, List.append_nil]
    exact holds.accepted
  · have first := holds.first unit
    rw [offered_insert, List.find?_append, ← first]
    by_cases same : unit = content.unit
    · subst same
      rw [found]
      rfl
    · simp [Ne.symm same]

theorem inserted (holds : table.Holds history) {content : Content}
    (absent : table.has content.unit = false) :
    (StagingTable.mk (Ordered.put content.unit content table.entries)).Holds
      (history ++ [(.insert content, .accepted)]) := by
  refine ⟨Ordered.ascending_put holds.ascending _ _, ?_, ?_, fun unit => ?_⟩
  · intro entry member
    rcases Ordered.eq_or_mem_of_mem_put member with rfl | old
    · rfl
    · exact holds.own entry old
  · rw [accepted_insert, if_pos rfl]
    have added := (Ordered.put_perm_of_not_has absent content).map Prod.snd
    calc
      (Ordered.put content.unit content table.entries).map Prod.snd
      _ |>.Perm (content :: table.contents) := added
      _ |>.Perm (content :: StagingTable.accepted history) :=
        holds.accepted.cons _
      _ |>.Perm (StagingTable.accepted history ++ [content]) :=
        (List.perm_append_singleton _ _).symm
  · have first := holds.first unit
    rw [offered_insert, List.find?_append, ← first]
    by_cases same : unit = content.unit
    · subst same
      have missing : Ordered.find? content.unit table.entries = none :=
        Option.not_isSome_iff_eq_none.mp (Bool.eq_false_iff.mp absent)
      simp [missing]
    · simp [Ne.symm same, Ordered.find?_put_of_ne same]

/-- One more request and its answer go into the history. -/
theorem step (holds : table.Holds history) (request : TableRequest) :
    (table.answer request).2.Holds
      (history ++ [(request, (table.answer request).1)]) := by
  cases request with
  | insert content =>
      rw [answer, insert?]
      cases known : table.has content.unit with
      | true => exact holds.rejected known
      | false => exact holds.inserted known
  | takeAll => exact taken history _
  | has unit => exact holds.asked (.has unit) rfl nofun _
  | size => exact holds.asked .size rfl nofun _
  | isEmpty => exact holds.asked .isEmpty rfl nofun _

theorem serve (requests : List TableRequest) :
    (StagingTable.serve requests).2.Holds (StagingTable.serve requests).1 :=
  History.serve_induction empty
    (fun _ _ request holds => holds.step request) requests

theorem keys_eq (holds : table.Holds history) :
    Ordered.keys table.entries = table.contents.map Content.unit := by
  rw [Ordered.keys, contents, Ordered.values, List.map_map]
  exact List.map_congr_left fun entry member => (holds.own entry member).symm

/-- The table has content under the units of what it has accepted. -/
theorem has_eq_any (holds : table.Holds history) (unit : String) :
    table.has unit = (StagingTable.accepted history).any fun content =>
      content.unit == unit := by
  rw [Bool.eq_iff_iff, has, Ordered.has_iff_mem_keys, holds.keys_eq,
    List.any_eq_true, List.mem_map]
  simp only [holds.accepted.mem_iff, beq_iff_eq]

/-- No two contents of one unit are accepted. -/
theorem nodup_units (holds : table.Holds history) :
    ((StagingTable.accepted history).map Content.unit).Nodup := by
  rw [← (holds.accepted.map Content.unit).nodup_iff, ← holds.keys_eq]
  exact (Ordered.ascending_iff.mp holds.ascending).imp ne_of_lt

theorem size_eq_length (holds : table.Holds history) :
    table.size = (StagingTable.accepted history).length := by
  rw [← holds.accepted.length_eq, contents, Ordered.values, List.length_map]
  rfl

/-- What the table hands out is the first of what it was asked to take for each
unit. -/
theorem first_of_mem (holds : table.Holds history) {content : Content}
    (member : content ∈ table.contents) :
    ((offered history).find? fun other => other.unit == content.unit) =
      some content := by
  obtain ⟨entry, inTable, rfl⟩ := List.mem_map.mp member
  rw [← holds.first, Ordered.find?_eq_some_iff holds.ascending,
    holds.own entry inTable]
  exact inTable

end Holds

/-- A table answers by what it has accepted since it was last emptied.  It gives
back a content whose unit is there, and it hands out what it has accepted in the
order of the bytes of units: for each unit the first content that it was asked
to take. -/
theorem answers_by_history (requests : List TableRequest) :
    let history := (serve requests).1
    let table := (serve requests).2
    let kept := accepted history
    (∀ entry ∈ table.entries, entry.2.unit = entry.1) ∧
      (kept.map Content.unit).Nodup ∧
      (∀ content : Content, if kept.any fun other =>
        other.unit == content.unit then
          table.answer (.insert content) = (.rejected content, table)
        else (table.answer (.insert content)).1 = .accepted) ∧
      (∀ unit, table.answer (.has unit) =
        (.flag (kept.any fun content => content.unit == unit), table)) ∧
      table.answer .size = (.count kept.length, table) ∧
      table.answer .isEmpty = (.flag kept.isEmpty, table) ∧
      ∃ contents, table.answer .takeAll = (.contents contents, empty) ∧
        contents.Perm kept ∧
        (contents.Pairwise fun left right =>
          Text.utf8Bytes left.unit < Text.utf8Bytes right.unit) ∧
        ∀ content ∈ contents,
          ((offered history).find? fun other => other.unit == content.unit) =
            some content := by
  intro history table kept
  have holds : table.Holds history := .serve requests
  refine ⟨holds.own, holds.nodup_units, fun content => ?_, fun unit => ?_,
    ?_, ?_, table.contents, rfl, holds.accepted,
    pairwise_contents holds.ascending holds.own,
    fun content => holds.first_of_mem⟩
  · rw [← holds.has_eq_any, answer, insert?]
    cases table.has content.unit <;> rfl
  · rw [answer, holds.has_eq_any]
  · rw [answer, holds.size_eq_length]
  · have same : table.isEmpty = kept.isEmpty := by
      rw [Bool.eq_iff_iff, isEmpty, List.isEmpty_iff_length_eq_zero,
        List.isEmpty_iff_length_eq_zero, ← holds.size_eq_length]
      rfl
    rw [answer, same]

/-- The second content of a unit is given back, and the first one is handed out
behind that of a smaller unit; what was handed out before does not count. -/
theorem answers_by_history_of_repeated_unit :
    let early : Content := ⟨"b", .file "b", [1]⟩
    let first : Content := ⟨"b", .file "b", [2]⟩
    let second : Content := ⟨"b", .literal, [3]⟩
    let other : Content := ⟨"a", .literal, []⟩
    let requests : List TableRequest :=
      [.insert early, .takeAll, .insert first, .insert second, .insert other]
    let table := (serve requests).2
    accepted (serve requests).1 = [first, other] ∧
      table.answer (.insert second) = (.rejected second, table) ∧
      table.answer (.has "b") = (.flag true, table) ∧
      ∃ contents, table.answer .takeAll = (.contents contents, empty) ∧
        contents.Perm [first, other] ∧
        ((offered (serve requests).1).find? fun content =>
          content.unit == "b") =
          some first := by
  intro early first second other requests table
  have kept : accepted (serve requests).1 = [first, other] := by decide +kernel
  obtain ⟨-, -, inserts, has, -, -, contents, taken, perm, -⟩ :=
    answers_by_history requests
  rw [kept] at inserts has perm
  exact ⟨kept, inserts second, has "b", contents, taken,
    perm, by decide +kernel⟩

end StagingTable

end QueryLint
