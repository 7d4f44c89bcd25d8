import QueryLint.Proofs.Files.Following

/-!
# What writing changes

A file that is written is read back.  A path that holds a file keeps it while
folders are made and other files are written, whatever links lead there: only a
write to the same place changes it.
-/

namespace QueryLint

namespace FileTree

variable {tree earlier later : FileTree} {path : String} {place gained : Place}
  {bytes : List UInt8}

/-- The path leads to a file at the place. -/
def Holds (tree : FileTree) (path : String) (place : Place)
    (bytes : List UInt8) : Prop :=
  tree.destination false path = .ok (.found place (.file bytes))

/-- Where a file would be written. -/
def target? (tree : FileTree) (path : String) : Option Place :=
  match tree.destination true path with
  | .ok (.found place _) => some place
  | .ok (.vacant place) => some place
  | .error _ => none

/-- A path that leads somewhere passes the checks of paths, which look at no
tree. -/
theorem destination_eq_follow {creating : Bool} {destination : Destination}
    (leads : tree.destination creating path = .ok destination)
    (other : FileTree) (mode : Bool) : other.destination mode path =
      other.follow mode maxLinks (origin path other.current) (names path) := by
  unfold FileTree.destination at leads ⊢
  split_ifs at leads ⊢
  rfl

theorem Gains.destination {creating : Bool} {target : Place} {node : Node}
    (gains : earlier.Gains later gained)
    (leads : earlier.destination creating path = .ok (.found target node)) :
    ∃ present, later.destination creating path =
      .ok (.found target present) := by
  have follows := destination_eq_follow leads
  rw [follows] at leads
  obtain ⟨present, arrives⟩ := gains.arrives (arrives_of_follow leads)
  refine ⟨present, ?_⟩
  rw [follows, gains.current, arrives.follow]

theorem stands_of_destination {creating : Bool} {target : Place} {node : Node}
    (leads : tree.destination creating path = .ok (.found target node)) :
    tree.node? target = some node := by
  have follows := destination_eq_follow leads
  rw [follows] at leads
  exact (arrives_of_follow leads).stands

theorem vacant_of_destination {creating : Bool} {target : Place}
    (leads : tree.destination creating path = .ok (.vacant target)) :
    target ≠ [] ∧ tree.node? target = none := by
  have follows := destination_eq_follow leads
  rw [follows] at leads
  exact vacant_of_follow leads

/-- The path is the name of an entry of the current folder. -/
structure IsName (path : String) : Prop where
  plain : path.toList.contains '\x00' = false
  filled : path.isEmpty = false
  short : path.utf8ByteSize ≤ maxPathLength
  relative : path.startsWith "/" = false
  alone : names path = [path]
  entry : IsEntry false path []

instance (path : String) : Decidable (IsName path) :=
  decidable_of_iff (path.toList.contains '\x00' = false ∧ path.isEmpty = false ∧
      path.utf8ByteSize ≤ maxPathLength ∧ path.startsWith "/" = false ∧
      names path = [path] ∧ IsEntry false path [])
    ⟨fun ⟨plain, filled, short, relative, alone, entry⟩ =>
        ⟨plain, filled, short, relative, alone, entry⟩,
      fun ⟨plain, filled, short, relative, alone, entry⟩ =>
        ⟨plain, filled, short, relative, alone, entry⟩⟩

theorem IsName.destination (isName : IsName path) :
    tree.destination false path =
      tree.follow false maxLinks tree.current [path] := by
  rw [FileTree.destination, isName.plain, isName.filled,
    if_neg Bool.false_ne_true, if_neg Bool.false_ne_true,
    if_neg (Nat.not_lt.mpr isName.short), origin, isName.relative, isName.alone]
  rfl

theorem IsName.holds (isName : IsName path)
    (folder : tree.node? tree.current = some .folder)
    (stands : tree.node? (tree.current ++ [path]) = some (.file bytes)) :
    tree.Holds path (tree.current ++ [path]) bytes := by
  rw [Holds, isName.destination,
    (Arrives.enter folder isName.entry stands nofun (.here stands)).follow]

theorem IsName.has_eq_false (isName : IsName path)
    (folder : tree.node? tree.current = some .folder)
    (missing : tree.node? (tree.current ++ [path]) = none) :
    tree.has path = false := by
  rw [has, find, isName.destination,
    follow_cons_of_vacant folder isName.entry missing]
  rfl

/-- A file holds bytes if it is not sealed. -/
theorem isFile_iff :
    tree.isFile path = true ↔
      (∃ place bytes, tree.Holds path place bytes) ∨
        ∃ reason, tree.find path = .ok (.sealed reason) := by
  unfold isFile find Holds
  cases tree.destination false path with
  | error => simp
  | ok destination =>
      cases destination with
      | vacant => simp
      | found place node => cases node <;> simp

/-- A file whose text is read is not sealed. -/
theorem exists_holds_of_readText {text : String}
    (isFile : tree.isFile path = true) (read : tree.readText path = .ok text) :
    ∃ place bytes, tree.Holds path place bytes := by
  rcases isFile_iff.mp isFile with holds | ⟨reason, isSealed⟩
  · exact holds
  · rw [readText, FileTree.read, isSealed] at read
    cases read

namespace Holds

variable (holds : tree.Holds path place bytes)

include holds

theorem find : tree.find path = .ok (.file bytes) := by
  rw [FileTree.find, holds]

theorem isFile : tree.isFile path = true :=
  isFile_iff.mpr (Or.inl ⟨place, bytes, holds⟩)

theorem has : tree.has path = true := by
  rw [FileTree.has, holds.find]
  rfl

theorem read : tree.read path = .ok bytes := by
  rw [FileTree.read, holds.find]

theorem readText {text : String}
    (decoded : String.fromUTF8? bytes.toByteArray = some text) :
    tree.readText path = .ok text := by
  rw [FileTree.readText, holds.read]
  dsimp only
  rw [decoded]

theorem stands : tree.node? place = some (.file bytes) :=
  stands_of_destination holds

theorem nested : place ≠ [] := by
  rintro rfl
  cases holds.stands

/-- A file that is read may be written. -/
theorem destination (creating : Bool) :
    tree.destination creating path = .ok (.found place (.file bytes)) := by
  have follows := destination_eq_follow holds
  have leads := holds
  rw [Holds, follows] at leads
  rw [follows, ((arrives_of_follow leads).writable creating).follow]

theorem write (new : List UInt8) :
    tree.write path new = .ok (tree.put place (.file new)) := by
  rw [FileTree.write, holds.destination]

theorem gains (new : List UInt8) :
    tree.Gains (tree.put place (.file new)) place := by
  apply gains_put holds.nested
  · rw [holds.stands]
    rintro _ ⟨⟩
    exact ⟨bytes, rfl⟩
  · exact nofun

/-- What is written is there. -/
theorem put (new : List UInt8) :
    (tree.put place (.file new)).Holds path place new := by
  obtain ⟨present, leads⟩ := (holds.gains new).destination holds
  have stands := stands_of_destination leads
  rw [node?_put holds.nested, if_pos rfl] at stands
  rw [Holds, leads, ← Option.some.inj stands]

theorem of_gains (gains : tree.Gains later gained) (apart : place ≠ gained) :
    later.Holds path place bytes := by
  obtain ⟨present, leads⟩ := gains.destination holds
  have stands := stands_of_destination leads
  rw [gains.others place apart, holds.stands] at stands
  rw [Holds, leads, ← Option.some.inj stands]

/-- Writing to the place moves no other path. -/
theorem target?_ne (new : List UInt8) {other : String}
    (apart : tree.target? other ≠ some place) :
    (tree.put place (.file new)).target? other ≠ some place := by
  have stands : (tree.put place (.file new)).node? place =
      some (.file new) := by
    rw [node?_put holds.nested, if_pos rfl]
  have back : (tree.put place (.file new)).Gains tree place := by
    refine ⟨rfl, ?_, ?_, .file bytes, holds.stands, nofun⟩
    · intro other different
      rw [node?_put holds.nested, if_neg different]
    · rw [stands]
      rintro _ ⟨⟩
      exact ⟨new, rfl⟩
  intro same
  apply apart
  unfold target? at same ⊢
  split at same
  · next leads =>
      cases same
      obtain ⟨present, before⟩ := back.destination leads
      rw [before]
  · next leads =>
      cases same
      have vacant := (vacant_of_destination leads).2
      rw [stands] at vacant
      cases vacant
  · cases same

/-- Writing somewhere else leaves the file as it is. -/
theorem of_write {other : String} {new : List UInt8}
    (apart : tree.target? other ≠ some place)
    (written : tree.write other new = .ok later) :
    later.Holds path place bytes := by
  unfold FileTree.write at written
  unfold target? at apart
  split at written
  · cases written
  · next target leads =>
      cases written
      rw [leads] at apart
      obtain ⟨nested, vacant⟩ := vacant_of_destination leads
      refine holds.of_gains (gains_put nested ?_ nofun) fun same =>
        apart (congrArg some same.symm)
      rw [vacant]
      exact nofun
  · next target old leads =>
      cases written
      rw [leads] at apart
      have stands := stands_of_destination leads
      have nested : target ≠ [] := by
        rintro rfl
        cases stands
      refine holds.of_gains (gains_put nested ?_ nofun) fun same =>
        apart (congrArg some same.symm)
      rw [stands]
      rintro _ ⟨⟩
      exact ⟨old, rfl⟩
  · cases written
  · cases written
  · split at written
    · cases written
    · cases written
      exact holds
  · cases written

/-- Making folders leaves the file as it is. -/
theorem of_makeFolders {folder : String} {names : List String}
    (made : tree.makeFolders folder names = .ok later) :
    later.Holds path place bytes := by
  fun_induction makeFolders tree folder names with
  | case1 =>
      cases made
      exact holds
  | case2 => cases made
  | case3 _ _ _ _ _ _ _ ih => exact ih holds made
  | case4 => cases made
  | case5 tree folder name rest way target leads ih =>
      obtain ⟨nested, vacant⟩ := vacant_of_destination leads
      refine ih (holds.of_gains (gains_put nested ?_ nofun) ?_) made
      · rw [vacant]
        exact nofun
      · rintro rfl
        rw [holds.stands] at vacant
        cases vacant

end Holds

end FileTree

end QueryLint
