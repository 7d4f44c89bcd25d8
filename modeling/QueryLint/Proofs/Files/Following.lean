import Mathlib.Data.List.Basic
import QueryLint.Files.Tree

/-!
# Where paths lead

`FileTree.Arrives` lists the steps by which a path leads to an entry, one
constructor for each kind of name on the way.  `FileTree.Gains` says that a tree
has one more entry than another, or another node in place of a file: every path
that led somewhere still leads there.
-/

namespace QueryLint

namespace FileTree

/-- The name is that of an entry, and may be looked up with these names behind
it. -/
structure IsEntry (creating : Bool) (name : String) (rest : List String) :
    Prop where
  proper : name ≠ "" ∧ name ≠ "." ∧ name ≠ ".."
  short : name.utf8ByteSize ≤ maxNameLength
  creatable : creating = true → rest ≠ [""]

instance (creating : Bool) (name : String) (rest : List String) :
    Decidable (IsEntry creating name rest) :=
  decidable_of_iff ((name ≠ "" ∧ name ≠ "." ∧ name ≠ "..") ∧
      name.utf8ByteSize ≤ maxNameLength ∧ (creating = true → rest ≠ [""]))
    ⟨fun ⟨proper, short, creatable⟩ => ⟨proper, short, creatable⟩,
      fun ⟨proper, short, creatable⟩ => ⟨proper, short, creatable⟩⟩

/-- Names lead from a place to an entry. -/
inductive Arrives (tree : FileTree) (creating : Bool) :
    Nat → Place → List String → Place → Node → Prop where
  | here {links : Nat} {place : Place} {node : Node} :
      tree.node? place = some node →
        Arrives tree creating links place [] place node
  | stay {links : Nat} {place target : Place} {node : Node} {name : String}
      {rest : List String} :
      tree.node? place = some .folder → name = "" ∨ name = "." →
      Arrives tree creating links place rest target node →
      Arrives tree creating links place (name :: rest) target node
  | up {links : Nat} {place target : Place} {node : Node} {rest : List String} :
      tree.node? place = some .folder →
      Arrives tree creating links place.dropLast rest target node →
      Arrives tree creating links place (".." :: rest) target node
  | enter {links : Nat} {place target : Place} {node entry : Node}
      {name : String} {rest : List String} :
      tree.node? place = some .folder → IsEntry creating name rest →
      tree.node? (place ++ [name]) = some entry → (∀ path, entry ≠ .link path) →
      Arrives tree creating links (place ++ [name]) rest target node →
      Arrives tree creating links place (name :: rest) target node
  | link {links : Nat} {place target : Place} {node : Node} {name path : String}
      {rest : List String} :
      tree.node? place = some .folder → IsEntry creating name rest →
      tree.node? (place ++ [name]) = some (.link path) →
      Arrives tree creating links (origin path place)
        (names path ++ rest) target node →
      Arrives tree creating (links + 1) place (name :: rest) target node

variable {tree : FileTree} {creating : Bool} {links : Nat}
  {place target : Place} {remaining : List String} {node : Node}

theorem isEntry_of_checks {name : String} {rest : List String}
    (proper : ¬ (decide (name = "") || decide (name = ".")) = true)
    (parent : ¬ name = "..")
    (creatable : ¬ (creating && decide (rest = [""])) = true)
    (short : ¬ maxNameLength < name.utf8ByteSize) :
    IsEntry creating name rest := by
  simp only [Bool.or_eq_true, decide_eq_true_eq, not_or] at proper
  simp only [Bool.and_eq_true, decide_eq_true_eq, not_and] at creatable
  exact ⟨⟨proper.1, proper.2, parent⟩, Nat.not_lt.mp short, creatable⟩

theorem arrives_of_follow
    (follows : tree.follow creating links place remaining =
      .ok (.found target node)) :
    Arrives tree creating links place remaining target node := by
  fun_induction follow tree creating links place remaining with
  | case1 links place found stands =>
      cases follows
      exact .here stands
  | case2 => cases follows
  | case3 => cases follows
  | case4 links place name rest folder stays ih =>
      refine .stay (not_not.mp folder) ?_ (ih follows)
      simpa using stays
  | case5 links place rest folder _ ih =>
      exact .up (not_not.mp folder) (ih follows)
  | case6 => cases follows
  | case7 => cases follows
  | case8 => cases follows
  | case9 => cases follows
  | case10 => cases follows
  | case11 place name rest folder proper parent creatable short path stands
      links ih =>
        exact .link (not_not.mp folder)
          (isEntry_of_checks proper parent creatable short) stands (ih follows)
  | case12 links place name rest folder proper parent creatable short entry
      solid stands ih =>
        exact .enter (not_not.mp folder)
          (isEntry_of_checks proper parent creatable short) stands solid
          (ih follows)

section

variable {name : String} {rest : List String}
  (folder : tree.node? place = some .folder)
  (isEntry : IsEntry creating name rest)

include isEntry

theorem IsEntry.not_dots :
    ¬ (decide (name = "") || decide (name = ".")) = true := by
  simp [isEntry.proper.1, isEntry.proper.2.1]

theorem IsEntry.not_open : ¬ (creating && decide (rest = [""])) = true := by
  simpa using isEntry.creatable

include folder

theorem follow_cons_of_entry {entry : Node}
    (stands : tree.node? (place ++ [name]) = some entry)
    (solid : ∀ path, entry ≠ .link path) :
    tree.follow creating links place (name :: rest) =
      tree.follow creating links (place ++ [name]) rest := by
  rw [follow, if_neg (not_not.mpr folder), if_neg isEntry.not_dots,
    if_neg isEntry.proper.2.2, if_neg isEntry.not_open,
    if_neg (Nat.not_lt.mpr isEntry.short), stands]
  cases entry with
  | link path => exact absurd rfl (solid path)
  | file => rfl
  | sealed => rfl
  | folder => rfl
  | device => rfl

theorem follow_cons_of_link {path : String}
    (stands : tree.node? (place ++ [name]) = some (.link path)) :
    tree.follow creating (links + 1) place (name :: rest) =
      tree.follow creating links (origin path place) (names path ++ rest) := by
  rw [follow, if_neg (not_not.mpr folder), if_neg isEntry.not_dots,
    if_neg isEntry.proper.2.2, if_neg isEntry.not_open,
    if_neg (Nat.not_lt.mpr isEntry.short), stands]

theorem follow_cons_of_vacant (vacant : tree.node? (place ++ [name]) = none) :
    tree.follow creating links place (name :: rest) =
      if rest.isEmpty then .ok (.vacant (place ++ [name]))
      else .error .noEntry := by
  rw [follow, if_neg (not_not.mpr folder), if_neg isEntry.not_dots,
    if_neg isEntry.proper.2.2, if_neg isEntry.not_open,
    if_neg (Nat.not_lt.mpr isEntry.short), vacant]

end

theorem Arrives.follow
    (arrives : Arrives tree creating links place remaining target node) :
    tree.follow creating links place remaining = .ok (.found target node) := by
  induction arrives with
  | here stands => rw [FileTree.follow, stands]
  | stay folder stays _ ih =>
      rw [FileTree.follow, if_neg (not_not.mpr folder),
        if_pos (by simpa using stays), ih]
  | up folder _ ih =>
      rw [FileTree.follow, if_neg (not_not.mpr folder), if_neg (by decide),
        if_pos rfl, ih]
  | enter folder isEntry stands solid _ ih =>
      rw [follow_cons_of_entry folder isEntry stands solid, ih]
  | link folder isEntry stands _ ih =>
      rw [follow_cons_of_link folder isEntry stands, ih]

theorem Arrives.stands
    (arrives : Arrives tree creating links place remaining target node) :
    tree.node? target = some node := by
  induction arrives with
  | here stands => exact stands
  | stay _ _ _ ih => exact ih
  | up _ _ ih => exact ih
  | enter _ _ _ _ _ ih => exact ih
  | link _ _ _ _ ih => exact ih

/-- Only a folder fulfils names of which the last is empty. -/
theorem Arrives.eq_folder
    (arrives : Arrives tree creating links place remaining target node)
    (empty : remaining.getLast? = some "") : node = .folder := by
  have last : ∀ {name : String} {rest : List String}, name ≠ "" →
      (name :: rest).getLast? = some "" → rest.getLast? = some "" := by
    intro name rest proper empty
    cases rest with
    | nil => exact absurd (Option.some.inj empty) proper
    | cons => exact empty
  induction arrives with
  | here => cases empty
  | @stay links place target node name rest folder _ arrives ih =>
      cases rest with
      | nil =>
          cases arrives with
          | here stands => exact Option.some.inj (stands.symm.trans folder)
      | cons => exact ih empty
  | up _ _ ih => exact ih (last (by decide) empty)
  | enter _ isEntry _ _ _ ih => exact ih (last isEntry.proper.1 empty)
  | @link links place target node name path rest _ isEntry _ _ ih =>
      have behind := last isEntry.proper.1 empty
      apply ih
      cases rest with
      | nil => cases behind
      | cons => rw [List.getLast?_append, behind, Option.some_or]

/-- A file that is found may be written as well. -/
theorem Arrives.writable {bytes : List UInt8}
    (arrives : Arrives tree false links place remaining target (.file bytes))
    (creating : Bool) :
    Arrives tree creating links place remaining target (.file bytes) := by
  generalize stands : Node.file bytes = node at arrives
  induction arrives with
  | here found => exact .here found
  | stay folder stays _ ih => exact .stay folder stays (ih stands)
  | up folder _ ih => exact .up folder (ih stands)
  | enter folder isEntry entry solid arrives ih =>
      refine .enter folder ⟨isEntry.proper, isEntry.short, ?_⟩ entry solid
        (ih stands)
      rintro - rfl
      cases stands.trans (arrives.eq_folder rfl)
  | link folder isEntry entry arrives ih =>
      refine .link folder ⟨isEntry.proper, isEntry.short, ?_⟩ entry (ih stands)
      rintro - rfl
      cases stands.trans (arrives.eq_folder List.getLast?_concat)

theorem vacant_of_follow
    (follows : tree.follow creating links place remaining =
      .ok (.vacant target)) :
    target ≠ [] ∧ tree.node? target = none := by
  fun_induction follow tree creating links place remaining with
  | case1 => cases follows
  | case2 => cases follows
  | case3 => cases follows
  | case4 _ _ _ _ _ _ ih => exact ih follows
  | case5 _ _ _ _ _ ih => exact ih follows
  | case6 => cases follows
  | case7 => cases follows
  | case8 links place name rest _ _ _ _ _ vacant _ =>
      cases follows
      exact ⟨List.append_ne_nil_of_right_ne_nil _ (List.cons_ne_nil _ _),
        vacant⟩
  | case9 => cases follows
  | case10 => cases follows
  | case11 _ _ _ _ _ _ _ _ _ _ _ ih => exact ih follows
  | case12 _ _ _ _ _ _ _ _ _ _ _ _ ih => exact ih follows

/-- The later tree has a node at a place where the earlier one has nothing or a
file. -/
structure Gains (earlier later : FileTree) (gained : Place) : Prop where
  current : later.current = earlier.current
  others : ∀ other, other ≠ gained → later.node? other = earlier.node? other
  free : ∀ node, earlier.node? gained = some node → ∃ bytes, node = .file bytes
  filled : ∃ node, later.node? gained = some node ∧ ∀ path, node ≠ .link path

/-- No way to an entry is lost. -/
theorem Gains.arrives {earlier later : FileTree} {gained : Place}
    (gains : earlier.Gains later gained)
    (arrives : Arrives earlier creating links place remaining target node) :
    ∃ present, Arrives later creating links place remaining target present := by
  have kept : ∀ {place : Place} {node : Node}, earlier.node? place = some node →
      (∀ bytes, node ≠ .file bytes) → later.node? place = some node := by
    intro place node stands solid
    rw [gains.others place, stands]
    rintro rfl
    obtain ⟨bytes, file⟩ := gains.free node stands
    exact solid bytes file
  have folders : ∀ {place : Place}, earlier.node? place = some .folder →
      later.node? place = some .folder := fun folder => kept folder nofun
  induction arrives with
  | @here links place node stands =>
      by_cases same : place = gained
      · subst same
        obtain ⟨present, filled, -⟩ := gains.filled
        exact ⟨present, .here filled⟩
      · exact ⟨node, .here ((gains.others place same).trans stands)⟩
  | stay folder stays _ ih =>
      obtain ⟨present, rest⟩ := ih
      exact ⟨present, .stay (folders folder) stays rest⟩
  | up folder _ ih =>
      obtain ⟨present, rest⟩ := ih
      exact ⟨present, .up (folders folder) rest⟩
  | @enter links place target node entry name rest folder isEntry stands solid _
      ih =>
        obtain ⟨present, rest⟩ := ih
        by_cases same : place ++ [name] = gained
        · subst same
          obtain ⟨new, filled, solidNew⟩ := gains.filled
          exact ⟨present, .enter (folders folder) isEntry filled solidNew rest⟩
        · have unchanged := (gains.others _ same).trans stands
          exact ⟨present, .enter (folders folder) isEntry unchanged solid rest⟩
  | link folder isEntry stands _ ih =>
      obtain ⟨present, rest⟩ := ih
      exact ⟨present, .link (folders folder) isEntry (kept stands nofun) rest⟩

theorem node?_put {changed : Place} (nested : changed ≠ []) (other : Place) :
    (tree.put changed node).node? other =
      if other = changed then some node else tree.node? other := by
  have filtered : ∀ entries : List (Place × Node), other ≠ changed →
      (entries.filter fun entry => entry.1 != changed).lookup other =
        entries.lookup other := by
    intro entries different
    induction entries with
    | nil => rfl
    | cons entry rest ih =>
        obtain ⟨present, old⟩ := entry
        by_cases same : present = changed
        · subst same
          simp [List.lookup_cons, beq_false_of_ne different, ih]
        · simp [List.lookup_cons, same, ih]
  unfold node? put
  by_cases same : other = changed
  · subst same
    simp [nested]
  · simp [List.lookup_cons, beq_false_of_ne same, same, filtered]

theorem gains_put {changed : Place} (nested : changed ≠ [])
    (free : ∀ node, tree.node? changed = some node →
      ∃ bytes, node = .file bytes)
    (solid : ∀ path, node ≠ .link path) :
    tree.Gains (tree.put changed node) changed := by
  refine ⟨rfl, ?_, free, node, ?_, solid⟩
  · intro other different
    rw [node?_put nested, if_neg different]
  · rw [node?_put nested, if_pos rfl]

end FileTree

end QueryLint
