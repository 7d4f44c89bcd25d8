import Mathlib.Data.List.Forall2
import QueryLint.Rule.RuleSet

/-!
# Overrides that are right

Overrides make a rule set if each of them names a rule and a severity; which of
the severities it is does not matter.
-/

namespace QueryLint

namespace Severity

/-- The text is the name of a severity, in any case of ASCII letters and among
blanks. -/
def IsNamedBy (text : String) : Prop :=
  ∃ severity : Severity,
    severity.name.toList = (Text.trim text.toList).map Char.toLower

theorem isSome_ofName?_iff {text : String} :
    (ofName? (String.ofList (Text.trim text.toList))).isSome = true ↔
      IsNamedBy text := by
  have complete : ∀ severity : Severity, severity ∈ all := by
    intro severity
    cases severity <;> decide
  simp [ofName?, IsNamedBy, complete]

end Severity

theorem Rule.isSome_ofName?_iff {text : String} :
    (ofName? text).isSome = true ↔ ∃ rule : Rule, rule.name = text := by
  have complete : ∀ rule : Rule, rule ∈ all := by
    intro rule
    cases rule <;> decide
  simp [ofName?, complete]

namespace RuleSet

/-- The override names a rule and a severity. -/
structure IsOverride (entry : String × String) : Prop where
  rule : ∃ rule : Rule, rule.name = entry.1
  severity : Severity.IsNamedBy entry.2

theorem exists_parseOverride_iff {name value : String} :
    (∃ parsed, parseOverride name value = .ok parsed) ↔
      IsOverride (name, value) := by
  have severity := @Severity.isSome_ofName?_iff value
  have rule := @Rule.isSome_ofName?_iff name
  unfold parseOverride
  cases named : Severity.ofName? (String.ofList (Text.trim value.toList)) with
  | none =>
      rw [named] at severity
      refine iff_of_false nofun fun isOverride => ?_
      cases severity.mpr isOverride.severity
  | some found =>
      rw [named] at severity
      cases called : Rule.ofName? name with
      | none =>
          rw [called] at rule
          refine iff_of_false nofun fun isOverride => ?_
          cases rule.mpr isOverride.rule
      | some known =>
          rw [called] at rule
          exact iff_of_true ⟨_, rfl⟩ ⟨rule.mp rfl, severity.mp rfl⟩

theorem exists_overrideAll_iff (rules : RuleSet)
    (overrides : List (String × String)) :
    (∃ result, rules.overrideAll overrides = .ok result) ↔
      ∀ entry ∈ overrides, IsOverride entry := by
  induction overrides generalizing rules with
  | nil => exact iff_of_true ⟨rules, rfl⟩ (List.forall_mem_nil _)
  | cons entry others ih =>
      obtain ⟨name, value⟩ := entry
      rw [List.forall_mem_cons, ← exists_parseOverride_iff, overrideAll]
      cases parsed : parseOverride name value with
      | error error => simp
      | ok found =>
          obtain ⟨rule, severity⟩ := found
          simp [ih]

/-- Overrides make a rule set if all of them are right. -/
theorem exists_ofOverrides_iff (overrides : List (String × String)) :
    (∃ rules, ofOverrides overrides = .ok rules) ↔
      ∀ entry ∈ overrides, IsOverride entry :=
  exists_overrideAll_iff default overrides

/-- The overrides differ in which severity they name, if at all. -/
structure SameButSeverity (entry other : String × String) : Prop where
  rule : other.1 = entry.1
  severity : other.2 = entry.2 ∨
    Severity.IsNamedBy entry.2 ∧ Severity.IsNamedBy other.2

theorem SameButSeverity.isOverride_iff {entry other : String × String}
    (same : SameButSeverity entry other) :
    IsOverride other ↔ IsOverride entry := by
  have severities : Severity.IsNamedBy other.2 ↔
      Severity.IsNamedBy entry.2 := by
    rcases same.severity with equal | ⟨before, after⟩
    · rw [equal]
    · exact iff_of_true after before
  constructor
  · intro isOverride
    exact ⟨same.rule ▸ isOverride.rule, severities.mp isOverride.severity⟩
  · intro isOverride
    exact ⟨same.rule ▸ isOverride.rule, severities.mpr isOverride.severity⟩

theorem forall_isOverride_iff_of_same
    {overrides others : List (String × String)}
    (same : List.Forall₂ SameButSeverity overrides others) :
    (∀ entry ∈ others, IsOverride entry) ↔
      ∀ entry ∈ overrides, IsOverride entry := by
  induction same with
  | nil => exact Iff.rfl
  | cons first rest ih =>
      rw [List.forall_mem_cons, List.forall_mem_cons, first.isOverride_iff, ih]

end RuleSet

end QueryLint
