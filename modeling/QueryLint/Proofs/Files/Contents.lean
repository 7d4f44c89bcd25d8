import QueryLint.Proofs.Files.Following
import QueryLint.Staging.Stager

/-!
# Trees that differ in what their files hold

Where a path leads is decided by the entries of the tree, and not by what is in
its files.  So is whether a unit can be loaded.
-/

namespace QueryLint

/-- The node, with nothing in it if it is a file. -/
def Node.emptied : Node → Node
  | file _ => file []
  | sealed reason => sealed reason
  | folder => folder
  | link target => link target
  | device full => device full

@[simp] theorem Node.emptied_eq_folder_iff {node : Node} :
    node.emptied = folder ↔ node = folder := by
  cases node <;> simp [emptied]

@[simp] theorem Node.emptied_eq_link_iff {node : Node} {target : String} :
    node.emptied = link target ↔ node = link target := by
  cases node <;> simp [emptied]

@[simp] theorem Node.emptied_eq_sealed_iff {node : Node} {reason : FileError} :
    node.emptied = sealed reason ↔ node = sealed reason := by
  cases node <;> simp [emptied]

def Destination.emptied : Destination → Destination
  | found place node => found place node.emptied
  | vacant place => vacant place

namespace FileTree

/-- The trees differ in what is in their files, if at all. -/
structure SameShape (tree other : FileTree) : Prop where
  current : other.current = tree.current
  nodes : ∀ place, (other.node? place).map Node.emptied =
    (tree.node? place).map Node.emptied

variable {tree other : FileTree}

/-- A unit can be loaded unless a file that it names cannot be reached or is
sealed. -/
theorem exists_load_iff {unit : String} :
    (∃ content, tree.load unit = .ok content) ↔
      (∀ error, tree.find unit = .error error → error.namesNothing = true) ∧
        ∀ reason, tree.find unit ≠ .ok (.sealed reason) := by
  unfold load
  cases tree.find unit with
  | error error => cases nothing : error.namesNothing <;> simp [nothing]
  | ok node => cases node <;> simp

/-- A tree in which a file is overwritten. -/
theorem sameShape_put {place : Place} {bytes : List UInt8} (nested : place ≠ [])
    (stands : tree.node? place = some (.file bytes)) (written : List UInt8) :
    tree.SameShape (tree.put place (.file written)) := by
  refine ⟨rfl, fun other => ?_⟩
  rw [node?_put nested]
  split_ifs with same
  · rw [same, stands]
    rfl
  · rfl

namespace SameShape

variable (same : tree.SameShape other) {place : Place}

include same

theorem exists_node {node : Node} (stands : tree.node? place = some node) :
    ∃ present, other.node? place = some present ∧
      present.emptied = node.emptied := by
  have nodes := same.nodes place
  rw [stands] at nodes
  exact Option.map_eq_some_iff.mp nodes

omit same in
theorem symm (same : tree.SameShape other) : other.SameShape tree :=
  ⟨same.current.symm, fun place => (same.nodes place).symm⟩

theorem vacant (missing : tree.node? place = none) :
    other.node? place = none := by
  have nodes := same.nodes place
  rw [missing] at nodes
  exact Option.map_eq_none_iff.mp nodes

theorem folder (stands : tree.node? place = some .folder) :
    other.node? place = some .folder := by
  obtain ⟨present, found, emptied⟩ := same.exists_node stands
  rw [found, Node.emptied_eq_folder_iff.mp emptied]

theorem link {target : String}
    (stands : tree.node? place = some (.link target)) :
    other.node? place = some (.link target) := by
  obtain ⟨present, found, emptied⟩ := same.exists_node stands
  rw [found, Node.emptied_eq_link_iff.mp emptied]

theorem not_ne_folder (stands : ¬ tree.node? place ≠ some .folder) :
    ¬ other.node? place ≠ some .folder :=
  not_not.mpr (same.folder (not_not.mp stands))

/-- Names lead to the same place in both trees. -/
theorem follow (creating : Bool) (links : Nat) (place : Place)
    (remaining : List String) :
    (other.follow creating links place remaining).map Destination.emptied =
      (tree.follow creating links place remaining).map Destination.emptied := by
  fun_induction FileTree.follow tree creating links place remaining with
  | case1 links place node stands =>
      obtain ⟨present, found, emptied⟩ := same.exists_node stands
      simp [FileTree.follow, found, Except.map, Destination.emptied, emptied]
  | case2 links place missing => simp [FileTree.follow, same.vacant missing]
  | case3 links place name rest notFolder =>
      have still : other.node? place ≠ some .folder :=
        fun folder => notFolder (same.symm.folder folder)
      rw [FileTree.follow, if_pos still]
  | case4 links place name rest folder stays ih =>
      rw [FileTree.follow, if_neg (same.not_ne_folder folder), if_pos stays, ih]
  | case5 links place rest folder stays ih =>
      rw [FileTree.follow, if_neg (same.not_ne_folder folder), if_neg stays,
        if_pos rfl, ih]
  | case6 links place name rest folder proper parent creates =>
      rw [FileTree.follow, if_neg (same.not_ne_folder folder), if_neg proper,
        if_neg parent, if_pos creates]
  | case7 links place name rest folder proper parent creatable long =>
      rw [FileTree.follow, if_neg (same.not_ne_folder folder), if_neg proper,
        if_neg parent, if_neg creatable, if_pos long]
  | case8 links place name rest folder proper parent creatable short missing
      last =>
        have isEntry := isEntry_of_checks proper parent creatable short
        have stays := same.folder (not_not.mp folder)
        rw [follow_cons_of_vacant stays isEntry (same.vacant missing),
          if_pos last]
  | case9 links place name rest folder proper parent creatable short missing
      last =>
        have isEntry := isEntry_of_checks proper parent creatable short
        have stays := same.folder (not_not.mp folder)
        rw [follow_cons_of_vacant stays isEntry (same.vacant missing),
          if_neg last]
  | case10 place name rest folder proper parent creatable short target stands =>
      rw [FileTree.follow, if_neg (same.not_ne_folder folder), if_neg proper,
        if_neg parent, if_neg creatable, if_neg short, same.link stands]
  | case11 place name rest folder proper parent creatable short target stands
      links ih =>
        have isEntry := isEntry_of_checks proper parent creatable short
        have stays := same.folder (not_not.mp folder)
        rw [follow_cons_of_link stays isEntry (same.link stands), ih]
  | case12 links place name rest folder proper parent creatable short entry
      solid stands ih =>
        have isEntry := isEntry_of_checks proper parent creatable short
        have stays := same.folder (not_not.mp folder)
        obtain ⟨present, found, emptied⟩ := same.exists_node stands
        have solidPresent : ∀ path, present ≠ .link path := by
          rintro path rfl
          exact solid path (Node.emptied_eq_link_iff.mp emptied.symm)
        rw [follow_cons_of_entry stays isEntry found solidPresent, ih]

theorem destination (creating : Bool) (path : String) :
    (other.destination creating path).map Destination.emptied =
      (tree.destination creating path).map Destination.emptied := by
  unfold FileTree.destination
  split_ifs
  · rfl
  · rfl
  · rfl
  · rw [same.current]
    exact same.follow ..

theorem find (path : String) :
    (other.find path).map Node.emptied = (tree.find path).map Node.emptied := by
  have leads := same.destination false path
  unfold FileTree.find
  cases before : tree.destination false path with
  | error error =>
      cases after : other.destination false path with
      | error => simp_all [Except.map]
      | ok => simp_all [Except.map]
  | ok target =>
      cases after : other.destination false path with
      | error => simp_all [Except.map]
      | ok present =>
          cases target <;> cases present <;>
            simp_all [Except.map, Destination.emptied]

/-- The same units can be loaded from both trees. -/
theorem loads_iff (unit : String) :
    (∃ content, other.load unit = .ok content) ↔
      ∃ content, tree.load unit = .ok content := by
  have found := same.find unit
  rw [exists_load_iff, exists_load_iff]
  cases before : tree.find unit with
  | error =>
      cases after : other.find unit <;> simp_all [Except.map]
  | ok node =>
      cases after : other.find unit with
      | error => simp_all [Except.map]
      | ok present =>
          have emptied : present.emptied = node.emptied := by
            simpa [before, after, Except.map] using found
          have alike (reason : FileError) :
              present = .sealed reason ↔ node = .sealed reason := by
            rw [← Node.emptied_eq_sealed_iff, emptied,
              Node.emptied_eq_sealed_iff]
          simp [alike]

end SameShape

end FileTree

end QueryLint
