import QueryLint.Log.Record
import QueryLint.Rule.Basic
import QueryLint.Rule.Error
import QueryLint.Rule.Violation
import QueryLint.Sql.LexedLine
import QueryLint.Suppression.Directive

/-!
# Rules with severities

A rule set gives every rule its severity.  Evaluating it on a unit yields a
verdict for each finding, in order: a violation to report, or the remark that a
directive silences it.
-/

namespace QueryLint

/-- A severity for every rule. -/
structure RuleSet where
  severity : Rule → Severity

/-- What becomes of one finding. -/
inductive Verdict where
  | reported (violation : Violation)
  | silenced (unit : String) (rule : Rule) (line : Nat)
  deriving DecidableEq, Repr

namespace RuleSet

def default : RuleSet :=
  ⟨Rule.defaultSeverity⟩

def set (rules : RuleSet) (rule : Rule) (severity : Severity) : RuleSet :=
  ⟨fun other => if other = rule then severity else rules.severity other⟩

/-- The rule and the severity that an override names; a wrong severity is
found before a wrong rule. -/
def parseOverride (name value : String) : Except RuleError (Rule × Severity) :=
  match Severity.ofName? (String.ofList (Text.trim value.toList)) with
  | none => .error (.invalidSeverity name value)
  | some severity =>
      match Rule.ofName? name with
      | none => .error (.unknownRule name)
      | some rule => .ok (rule, severity)

/-- Applies overrides in order, up to the first one that is wrong. -/
def overrideAll (rules : RuleSet) :
    List (String × String) → Except RuleError RuleSet
  | [] => .ok rules
  | (name, value) :: others =>
      match parseOverride name value with
      | .error error => .error error
      | .ok (rule, severity) => overrideAll (rules.set rule severity) others

/-- The default rule set with overrides from rule names to severity names. -/
def ofOverrides (overrides : List (String × String)) :
    Except RuleError RuleSet :=
  default.overrideAll overrides

/-- The records of applying overrides: one for each that is right, up to the
first that is wrong. -/
def overrideRecords : List (String × String) → List Log.Record
  | [] => []
  | (name, value) :: others =>
      match parseOverride name value with
      | .error _ => []
      | .ok (_, severity) =>
          ⟨.debug, "sqllint::rules::visitor",
            s!"Rule '{name}' set to {severity.name}"⟩
            :: overrideRecords others

/-- What becomes of a finding of a rule that is not off. -/
def verdict (rules : RuleSet) (unit : String) (suppressions : Suppressions)
    (rule : Rule) (finding : Finding) : Verdict :=
  if suppressions.silences rule.name finding.line then
    .silenced unit rule finding.line
  else
    .reported ⟨unit, finding.line, finding.column, rules.severity rule,
      rule.name, finding.message⟩

def verdictsOf (rules : RuleSet) (unit : String) (suppressions : Suppressions)
    (code : List Text) (rule : Rule) : List Verdict :=
  if rules.severity rule = .off then []
  else (rule.check code).map (rules.verdict unit suppressions rule)

/-- The verdicts on a unit, rule by rule. -/
def evaluate (rules : RuleSet) (unit : String) (suppressions : Suppressions)
    (lines : List Text) : List Verdict :=
  Rule.all.flatMap (rules.verdictsOf unit suppressions (codeOnly lines))

end RuleSet

def Verdict.violations (verdicts : List Verdict) : List Violation :=
  verdicts.filterMap fun verdict =>
    match verdict with
    | .reported violation => some violation
    | .silenced .. => none

end QueryLint
