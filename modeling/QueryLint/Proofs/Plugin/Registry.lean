import QueryLint.Plugin.Registry
import QueryLint.Proofs.Ordered

/-!
# Well-formed registries

Every registry that is built by its operations files plugins under their own
names, and its active names ascend and are registered.
-/

namespace QueryLint

namespace Ordered

theorem mem_add_iff {name other : String} {names : List String} :
    other ∈ add name names ↔ other = name ∨ other ∈ names := by
  induction names with
  | nil => simp [add]
  | cons head rest ih =>
      simp only [add]
      split_ifs with before same
      · exact List.mem_cons
      · subst same
        simp
      · simp only [List.mem_cons, ih]
        tauto

private theorem add_eq_keys_put (name : String) (names : List String) :
    add name names =
      keys (put name () (names.map fun other => (other, ()))) := by
  induction names with
  | nil => rfl
  | cons head rest ih =>
      simp only [add, put, List.map_cons]
      split_ifs with before same
      · simp [keys, Function.comp_def]
      · simp [keys, Function.comp_def, same]
      · rw [ih]
        rfl

theorem pairwise_add {names : List String} (ascending : names.Pairwise (· < ·))
    (name : String) : (add name names).Pairwise (· < ·) := by
  rw [add_eq_keys_put]
  have pairs : Ascending (names.map fun other => (other, ())) :=
    List.pairwise_map.mpr ascending
  exact List.pairwise_map.mpr (ascending_put pairs name ())

/-- The names with further names. -/
def addAll (further names : List String) : List String :=
  further.foldl (fun sorted name => add name sorted) names

theorem mem_addAll_iff {name : String} {further names : List String} :
    name ∈ addAll further names ↔ name ∈ names ∨ name ∈ further := by
  induction further generalizing names with
  | nil => simp [addAll]
  | cons other rest ih =>
      change name ∈ addAll rest (add other names) ↔ _
      rw [ih, mem_add_iff, List.mem_cons]
      tauto

theorem pairwise_addAll {names : List String}
    (ascending : names.Pairwise (· < ·)) (further : List String) :
    (addAll further names).Pairwise (· < ·) := by
  induction further generalizing names with
  | nil => exact ascending
  | cons other rest ih => exact ih (pairwise_add ascending other)

end Ordered

namespace Registry

/-- Plugins are filed under their own names, and only these can be active. -/
structure WellFormed (registry : Registry) : Prop where
  named : ∀ name plugin, registry.find? name = some plugin → plugin.name = name
  ascending : registry.active.Pairwise (· < ·)
  registered : ∀ name ∈ registry.active, registry.has name = true

variable {registry : Registry}

theorem mem_names_iff {name : String} :
    name ∈ registry.names ↔ registry.has name = true :=
  Ordered.has_iff_mem_keys.symm

theorem wellFormed_empty : empty.WellFormed := by
  constructor
  · intro name plugin found
    cases found
  · exact List.Pairwise.nil
  · intro name member
    cases member

private theorem has_put {name other : String} {plugin : Plugin}
    {plugins : List (String × Plugin)}
    (known : Ordered.has other plugins = true) :
    Ordered.has other (Ordered.put name plugin plugins) = true := by
  by_cases same : other = name
  · subst other
    simp [Ordered.has]
  · rw [Ordered.has, Ordered.find?_put_of_ne same]
    exact known

namespace WellFormed

/-- A plugin may be filed under its own name at any time. -/
theorem update (wellFormed : registry.WellFormed) (plugin : Plugin) :
    (registry.update plugin.name plugin).WellFormed := by
  constructor
  · intro name other found
    by_cases same : name = plugin.name
    · subst name
      have filed : plugin = other := by
        simpa [Registry.update, find?] using found
      exact congrArg Plugin.name filed.symm
    · have filed : registry.find? name = some other := by
        simpa [Registry.update, find?, Ordered.find?_put_of_ne same] using found
      exact wellFormed.named name other filed
  · exact wellFormed.ascending
  · intro name member
    exact has_put (wellFormed.registered name member)

theorem register (wellFormed : registry.WellFormed) {plugin : Plugin}
    {after : Registry} (registered : registry.register plugin = .ok after) :
    after.WellFormed := by
  unfold Registry.register at registered
  split_ifs at registered
  cases registered
  exact wellFormed.update plugin

theorem activate (wellFormed : registry.WellFormed) {name : String}
    {after : Registry} (activated : registry.activate name = .ok after) :
    after.WellFormed := by
  unfold Registry.activate at activated
  split_ifs at activated with known
  cases activated
  constructor
  · exact wellFormed.named
  · exact Ordered.pairwise_add wellFormed.ascending name
  · intro other member
    rcases Ordered.mem_add_iff.mp member with rfl | old
    · exact known
    · exact wellFormed.registered other old

end WellFormed

end Registry

end QueryLint
