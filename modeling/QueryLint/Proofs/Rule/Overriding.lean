import QueryLint.Proofs.Ordered
import QueryLint.Proofs.Rule.Findings
import QueryLint.Proofs.Rule.Settings
import QueryLint.Proofs.Text.ByteOrder

/-!
# What overrides change

Overrides are read in the order of their names, and the first one that is wrong
decides about the error.  If all are right, the severity of a rule is the one
under its own name.  Severities do not matter to what the rules find, so that
the violations are those of the default severities, less the ones of rules that
are off.
-/

namespace QueryLint

namespace Severity

/-- The text is the name of the severity, in any case of ASCII letters and among
blanks. -/
def HasName (severity : Severity) (text : String) : Prop :=
  severity.name.toList = (Text.trim text.toList).map Char.toLower

theorem eq_of_name_eq {severity other : Severity}
    (same : severity.name.toList = other.name.toList) : severity = other := by
  revert same
  cases severity <;> cases other <;> decide

theorem HasName.unique {severity other : Severity} {text : String}
    (named : severity.HasName text) (namedOther : other.HasName text) :
    severity = other :=
  eq_of_name_eq (named.trans namedOther.symm)

theorem ofName?_eq_some_iff {severity : Severity} {text : String} :
    ofName? (String.ofList (Text.trim text.toList)) = some severity ↔
      severity.HasName text := by
  have complete : ∀ severity : Severity, severity ∈ all := by
    intro severity
    cases severity <;> decide
  have injective : Function.Injective fun severity : Severity =>
      severity.name.toList :=
    fun _ _ => eq_of_name_eq
  rw [ofName?, Ordered.find?_named_eq_some_iff complete injective,
    String.toList_ofList]
  exact Iff.rfl

end Severity

theorem Rule.ofName?_eq_some_iff {rule : Rule} {text : String} :
    ofName? text = some rule ↔ rule.name = text := by
  have complete : ∀ rule : Rule, rule ∈ all := by
    intro rule
    cases rule <;> decide
  exact Ordered.find?_named_eq_some_iff complete Rule.name_injective

theorem Rule.ofName?_name (rule : Rule) : ofName? rule.name = some rule :=
  Rule.ofName?_eq_some_iff.mpr rfl

/-- The violation under other severities: it is dropped if its rule is off, and
has the severity of its rule otherwise. -/
def Violation.under (severity : Rule → Severity) (violation : Violation) :
    Option Violation :=
  (Rule.ofName? violation.rule).bind fun rule =>
    if severity rule = .off then none
    else some { violation with severity := severity rule }

theorem Violation.rule_of_under {severity : Rule → Severity}
    {violation after : Violation}
    (made : violation.under severity = some after) :
    after.rule = violation.rule := by
  obtain ⟨rule, -, kept⟩ := Option.bind_eq_some_iff.mp made
  split at kept
  · cases kept
  · cases kept
    rfl

namespace RuleSet

/-- The error is what is wrong with the entry; a severity that is wrong comes
before a rule that is wrong. -/
inductive Faults : String × String → RuleError → Prop where
  | severity {name value : String} :
      ¬ Severity.IsNamedBy value →
        Faults (name, value) (.invalidSeverity name value)
  | rule {name value : String} :
      Severity.IsNamedBy value → (∀ rule : Rule, rule.name ≠ name) →
      Faults (name, value) (.unknownRule name)

theorem parseOverride_eq_ok_iff {name value : String} {rule : Rule}
    {severity : Severity} :
    parseOverride name value = .ok (rule, severity) ↔
      rule.name = name ∧ severity.HasName value := by
  rw [← Rule.ofName?_eq_some_iff, ← Severity.ofName?_eq_some_iff, parseOverride]
  cases Severity.ofName? (String.ofList (Text.trim value.toList)) with
  | none => simp
  | some found =>
      cases Rule.ofName? name with
      | none => simp
      | some known => simp

theorem parseOverride_eq_error_iff {name value : String} {error : RuleError} :
    parseOverride name value = .error error ↔ Faults (name, value) error := by
  have severity := @Severity.isSome_ofName?_iff value
  have rule := @Rule.isSome_ofName?_iff name
  unfold parseOverride
  cases named : Severity.ofName? (String.ofList (Text.trim value.toList)) with
  | none =>
      have unnamed : ¬ Severity.IsNamedBy value := by
        rw [← severity, named]
        simp
      constructor
      · intro failed
        cases failed
        exact .severity unnamed
      · intro faults
        cases faults with
        | severity => rfl
        | rule isNamed => exact absurd isNamed unnamed
  | some found =>
      have isNamed : Severity.IsNamedBy value := by
        rw [← severity, named]
        rfl
      cases called : Rule.ofName? name with
      | none =>
          have unknown : ∀ rule : Rule, rule.name ≠ name := by
            intro known same
            rw [called] at rule
            exact absurd (rule.mpr ⟨known, same⟩) (by simp)
          constructor
          · intro failed
            cases failed
            exact .rule isNamed unknown
          · intro faults
            cases faults with
            | severity unnamed => exact absurd isNamed unnamed
            | rule => rfl
      | some known =>
          have knownName : known.name = name :=
            Rule.ofName?_eq_some_iff.mp called
          constructor
          · intro failed
            cases failed
          · intro faults
            cases faults with
            | severity unnamed => exact absurd isNamed unnamed
            | rule _ unknown => exact absurd knownName (unknown known)

/-- Overrides fail with the fault of the first one that is wrong. -/
theorem overrideAll_eq_error_iff {rules : RuleSet}
    {overrides : List (String × String)} {error : RuleError} :
    rules.overrideAll overrides = .error error ↔
      ∃ earlier entry later, overrides = earlier ++ entry :: later ∧
        (∀ other ∈ earlier, IsOverride other) ∧ Faults entry error := by
  induction overrides generalizing rules with
  | nil => simp [overrideAll]
  | cons entry others ih =>
      obtain ⟨name, value⟩ := entry
      rw [overrideAll]
      cases parsed : parseOverride name value with
      | error fault =>
          have faults := parseOverride_eq_error_iff.mp parsed
          constructor
          · intro failed
            cases failed
            exact ⟨[], (name, value), others, rfl, by simp, faults⟩
          · intro split
            obtain ⟨earlier, first, later, same, right, other⟩ := split
            cases earlier with
            | nil =>
                obtain ⟨rfl, -⟩ := List.cons.inj same
                have failed := parseOverride_eq_error_iff.mpr other
                rw [parsed] at failed
                cases failed
                rfl
            | cons head earlier =>
                obtain ⟨rfl, -⟩ := List.cons.inj same
                have accepted :=
                  exists_parseOverride_iff.mpr (right _ List.mem_cons_self)
                rw [parsed] at accepted
                simp at accepted
      | ok found =>
          have isOverride : IsOverride (name, value) :=
            exists_parseOverride_iff.mp ⟨found, parsed⟩
          constructor
          · intro failed
            obtain ⟨earlier, first, later, rfl, right, faults⟩ := ih.mp failed
            refine ⟨(name, value) :: earlier, first, later, rfl, ?_, faults⟩
            exact List.forall_mem_cons.mpr ⟨isOverride, right⟩
          · intro split
            obtain ⟨earlier, first, later, same, right, faults⟩ := split
            cases earlier with
            | nil =>
                obtain ⟨rfl, -⟩ := List.cons.inj same
                have failed := parseOverride_eq_error_iff.mpr faults
                rw [parsed] at failed
                cases failed
            | cons head earlier =>
                obtain ⟨-, rfl⟩ := List.cons.inj same
                apply ih.mpr
                exact ⟨earlier, first, later, rfl,
                  (List.forall_mem_cons.mp right).2, faults⟩

/-- The entry is wrong, and no other wrong one has a name with smaller bytes. -/
structure IsLeastWrong (overrides : List (String × String))
    (entry : String × String) :
    Prop where
  member : entry ∈ overrides
  wrong : ¬ IsOverride entry
  least : ∀ other ∈ overrides, ¬ IsOverride other →
    other = entry ∨ Text.utf8Bytes entry.1 < Text.utf8Bytes other.1

theorem Faults.wrong {entry : String × String} {error : RuleError}
    (faults : Faults entry error) : ¬ IsOverride entry := by
  intro isOverride
  cases faults with
  | severity unnamed => exact unnamed isOverride.severity
  | rule _ unknown =>
      obtain ⟨rule, same⟩ := isOverride.rule
      exact unknown rule same

/-- In ascending order, the first entry that is wrong is the least one. -/
theorem isLeastWrong_iff {overrides : List (String × String)}
    (ascending : Ordered.Ascending overrides) {entry : String × String} :
    IsLeastWrong overrides entry ↔
      ¬ IsOverride entry ∧ ∃ earlier later,
        overrides = earlier ++ entry :: later ∧
        ∀ other ∈ earlier, IsOverride other := by
  constructor
  · intro isLeast
    obtain ⟨earlier, later, rfl⟩ := List.append_of_mem isLeast.member
    refine ⟨isLeast.wrong, earlier, later, rfl, ?_⟩
    intro other member
    by_contra wrong
    have below : other.1 < entry.1 :=
      (List.pairwise_append.mp ascending).2.2 other member entry
        List.mem_cons_self
    rcases isLeast.least other (List.mem_append_left _ member) wrong with
      same | above
    · rw [same] at below
      exact lt_irrefl _ below
    · exact lt_asymm below ((Text.utf8Bytes_lt_iff _ _).mp above)
  · intro split
    obtain ⟨wrong, earlier, later, rfl, right⟩ := split
    refine ⟨by simp, wrong, ?_⟩
    intro other member wrongOther
    rcases List.mem_append.mp member with before | after
    · exact absurd (right other before) wrongOther
    · rcases List.mem_cons.mp after with same | behind
      · exact Or.inl same
      · have below : entry.1 < other.1 :=
          (List.pairwise_cons.mp (List.pairwise_append.mp ascending).2.1).1
            other behind
        exact Or.inr ((Text.utf8Bytes_lt_iff _ _).mpr below)

/-- The severities are those of the overrides, and the given ones for rules that
no override names. -/
structure Sets (overrides : List (String × String))
    (given severity : Rule → Severity) :
    Prop where
  named : ∀ rule value, (rule.name, value) ∈ overrides →
    (severity rule).HasName value
  kept : ∀ rule, rule.name ∉ Ordered.keys overrides → severity rule = given rule

theorem Sets.severity_eq {overrides others : List (String × String)}
    {given severity other : Rule → Severity} {rule : Rule}
    (sets : Sets overrides given severity)
    (setsOther : Sets others given other)
    (same : ∀ value, (rule.name, value) ∈ overrides ↔
      (rule.name, value) ∈ others) :
    severity rule = other rule := by
  by_cases named : ∃ value, (rule.name, value) ∈ overrides
  · obtain ⟨value, member⟩ := named
    have hasName := sets.named rule value member
    exact hasName.unique (setsOther.named rule value ((same value).mp member))
  · have unnamed : rule.name ∉ Ordered.keys overrides := by
      intro key
      obtain ⟨⟨name, value⟩, member, rfl⟩ := List.mem_map.mp key
      exact named ⟨value, member⟩
    have unnamedOther : rule.name ∉ Ordered.keys others := by
      intro key
      obtain ⟨⟨name, value⟩, member, isName⟩ := List.mem_map.mp key
      cases isName
      exact named ⟨value, (same value).mpr member⟩
    rw [sets.kept rule unnamed, setsOther.kept rule unnamedOther]

theorem sets_of_overrideAll {rules result : RuleSet}
    {overrides : List (String × String)}
    (ascending : Ordered.Ascending overrides)
    (applied : rules.overrideAll overrides = .ok result) :
    Sets overrides rules.severity result.severity := by
  induction overrides generalizing rules with
  | nil =>
      cases applied
      constructor
      · simp
      · simp
  | cons entry others ih =>
      obtain ⟨name, value⟩ := entry
      obtain ⟨above, later⟩ := List.pairwise_cons.mp ascending
      rw [overrideAll] at applied
      cases parsed : parseOverride name value with
      | error error => simp [parsed] at applied
      | ok found =>
          obtain ⟨rule, severity⟩ := found
          obtain ⟨isRule, hasName⟩ := parseOverride_eq_ok_iff.mp parsed
          have sets := ih later (by simpa [parsed] using applied)
          have once : rule.name ∉ Ordered.keys others := by
            intro again
            obtain ⟨other, member, same⟩ := List.mem_map.mp again
            have below := above other member
            rw [same, isRule] at below
            exact lt_irrefl _ below
          have own : result.severity rule = severity := by
            rw [sets.kept rule once]
            simp [set]
          constructor
          · intro named value' member
            rcases List.mem_cons.mp member with here | behind
            · obtain ⟨sameName, rfl⟩ := Prod.mk.inj here
              rw [Rule.name_injective (sameName.trans isRule.symm), own]
              exact hasName
            · exact sets.named named value' behind
          · intro other unnamed
            obtain ⟨notHere, notLater⟩ : other.name ≠ name ∧
                other.name ∉ Ordered.keys others := by
              simpa [Ordered.keys] using unnamed
            have different : other ≠ rule := by
              intro same
              rw [same] at notHere
              exact notHere isRule
            rw [sets.kept other notLater]
            simp [set, different]

theorem under_violation (rules given : RuleSet) (unit : String) (rule : Rule)
    (finding : Finding) :
    (given.violation unit rule finding).under rules.severity =
      if rules.severity rule = .off then none
      else some (rules.violation unit rule finding) := by
  rw [Violation.under, violation, Rule.ofName?_name]
  rfl

/-- Rules find the same under all severities. -/
theorem violations_evaluate_eq_filterMap (rules : RuleSet) (unit : String)
    (suppressions : Suppressions) (lines : List Text) :
    Verdict.violations (rules.evaluate unit suppressions lines) =
      (Verdict.violations (default.evaluate unit suppressions lines)).filterMap
        (Violation.under rules.severity) := by
  have evaluated (rule : Rule) : default.severity rule ≠ .off := by
    cases rule <;> simp [default, Rule.defaultSeverity]
  rw [violations_evaluate, violations_evaluate, List.filterMap_flatMap]
  apply congrArg Rule.all.flatMap
  funext rule
  rw [if_neg (evaluated rule), List.filterMap_map]
  simp only [Function.comp_def, under_violation]
  split
  · simp
  · rw [List.filterMap_eq_map']

/-- Only the severity of its own rule decides what becomes of a violation. -/
theorem filter_under_congr {severity other : Rule → Severity} {rule : Rule}
    (same : severity rule = other rule) (violations : List Violation) :
    (violations.filterMap (Violation.under severity)).filter
        (·.rule = rule.name) =
      (violations.filterMap (Violation.under other)).filter
        (·.rule = rule.name) := by
  rw [List.filter_filterMap, List.filter_filterMap]
  apply List.filterMap_congr
  intro violation _
  by_cases own : violation.rule = rule.name
  · have called : Rule.ofName? violation.rule = some rule :=
      Rule.ofName?_eq_some_iff.mpr own.symm
    rw [Violation.under, Violation.under, called, Option.bind_some,
      Option.bind_some, same]
  · have dropped (severities : Rule → Severity) :
        Option.filter (·.rule = rule.name) (violation.under severities) =
          none := by
      apply Option.filter_eq_none_iff.mpr
      intro after made
      rw [Violation.rule_of_under made]
      simpa using own
    rw [dropped severity, dropped other]

/-- Overrides are accepted if all of them are right; otherwise the error is
about the least name of a wrong one.  Accepted overrides set the severities of
the rules that they name, and leave what the rules find as it is: violations are
those of the default severities, without those of rules that are off and with
the new severities in the others.  The violations of a rule depend on no other
rule's override. -/
theorem ofOverrides_of_ascending {overrides : List (String × String)}
    (ascending : Ordered.Ascending overrides) :
    ((∃ rules, ofOverrides overrides = .ok rules) ↔
      ∀ entry ∈ overrides, IsOverride entry) ∧
    (∀ error, ofOverrides overrides = .error error ↔
      ∃ entry, IsLeastWrong overrides entry ∧ Faults entry error) ∧
    ∀ rules, ofOverrides overrides = .ok rules →
      Sets overrides Rule.defaultSeverity rules.severity ∧
      ∀ (unit : String) (suppressions : Suppressions) (lines : List Text),
        Verdict.violations (rules.evaluate unit suppressions lines) =
          (Verdict.violations
            (default.evaluate unit suppressions lines)).filterMap
            (Violation.under rules.severity) ∧
        ∀ others otherRules, Ordered.Ascending others →
          ofOverrides others = .ok otherRules →
          ∀ rule : Rule,
            (∀ value, (rule.name, value) ∈ others ↔
              (rule.name, value) ∈ overrides) →
            (Verdict.violations
              (otherRules.evaluate unit suppressions lines)).filter
                (·.rule = rule.name) =
              (Verdict.violations
                (rules.evaluate unit suppressions lines)).filter
                (·.rule = rule.name) := by
  refine ⟨exists_ofOverrides_iff overrides, ?_, ?_⟩
  · intro error
    rw [ofOverrides, overrideAll_eq_error_iff]
    constructor
    · intro failed
      obtain ⟨earlier, entry, later, split, right, faults⟩ := failed
      have least := (isLeastWrong_iff ascending).mpr
        ⟨faults.wrong, earlier, later, split, right⟩
      exact ⟨entry, least, faults⟩
    · intro least
      obtain ⟨entry, isLeast, faults⟩ := least
      obtain ⟨-, earlier, later, split, right⟩ :=
        (isLeastWrong_iff ascending).mp isLeast
      exact ⟨earlier, entry, later, split, right, faults⟩
  · intro rules accepted
    have sets := sets_of_overrideAll ascending accepted
    refine ⟨sets, ?_⟩
    intro unit suppressions lines
    refine ⟨violations_evaluate_eq_filterMap rules unit suppressions lines, ?_⟩
    intro others otherRules ascendingOthers acceptedOthers rule sameEntries
    have setsOthers := sets_of_overrideAll ascendingOthers acceptedOthers
    have sameSeverity : otherRules.severity rule = rules.severity rule :=
      setsOthers.severity_eq sets sameEntries
    rw [violations_evaluate_eq_filterMap otherRules,
      violations_evaluate_eq_filterMap rules, filter_under_congr sameSeverity]

theorem ofOverrides_of_ascending_mixed :
    let overrides := [("print-statement", " OFF"), ("select-star", "Warning")]
    let others :=
      [("select-star", "Warning"), ("semicolon-termination", "error")]
    let wrong := [("a-rule", "warning"), ("select-star", "fatal")]
    let lines := ["SELECT * FROM t;".toList, "PRINT 1".toList]
    let rules := (default.set .printStatement .off).set .selectStar .warning
    let otherRules :=
      (default.set .selectStar .warning).set .semicolonTermination .error
    (Ordered.Ascending overrides ∧ ofOverrides overrides = .ok rules ∧
      Verdict.violations (rules.evaluate "q.sql" .empty lines) =
        (Verdict.violations (default.evaluate "q.sql" .empty lines)).filterMap
          (Violation.under rules.severity)) ∧
    (Ordered.Ascending others ∧ ofOverrides others = .ok otherRules ∧
      (Verdict.violations (otherRules.evaluate "q.sql" .empty lines)).filter
          (·.rule = Rule.selectStar.name) =
        (Verdict.violations (rules.evaluate "q.sql" .empty lines)).filter
          (·.rule = Rule.selectStar.name)) ∧
    Ordered.Ascending wrong ∧
      ∃ entry, IsLeastWrong wrong entry ∧
        Faults entry (.unknownRule "a-rule") := by
  intro overrides others wrong lines rules otherRules
  have ascending : Ordered.Ascending overrides := by
    unfold Ordered.Ascending
    decide
  have ascendingOthers : Ordered.Ascending others := by
    unfold Ordered.Ascending
    decide
  have ascendingWrong : Ordered.Ascending wrong := by
    unfold Ordered.Ascending
    decide
  have accepted : ofOverrides overrides = .ok rules := by rfl
  have acceptedOthers : ofOverrides others = .ok otherRules := by rfl
  have refused : ofOverrides wrong = .error (.unknownRule "a-rule") := by rfl
  have evaluated :=
    ((ofOverrides_of_ascending ascending).2.2 rules accepted).2 "q.sql" .empty
      lines
  have same :=
    evaluated.2 others otherRules ascendingOthers acceptedOthers .selectStar
      (by simp [overrides, others, Rule.name])
  exact ⟨⟨ascending, accepted, evaluated.1⟩,
    ⟨ascendingOthers, acceptedOthers, same⟩, ascendingWrong,
    ((ofOverrides_of_ascending ascendingWrong).2.1 _).mp refused⟩

end RuleSet

end QueryLint
