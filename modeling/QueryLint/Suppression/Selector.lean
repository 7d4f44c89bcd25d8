import QueryLint.Text.Basic

/-!
# Rule selectors

A directive names the rules it is about: one rule, up to the case of ASCII
letters, or every rule.
-/

namespace QueryLint

/-- Which rules a directive is about. -/
inductive Selector where
  | every
  | named (name : Text)
  deriving DecidableEq, Repr, Inhabited

namespace Selector

/-- The selector of one rule; names are kept in lower case. -/
def ofName (name : Text) : Selector :=
  .named (Text.lower name)

/-- The selector is about the rule. -/
def covers (rule : String) : Selector → Bool
  | every => true
  | named name => Text.sameIgnoringCase name rule.toList

/-- A selector is about a rule if it is about every rule or names this one, up
to the case of ASCII letters. -/
theorem covers_iff {selector : Selector} {rule : String} :
    selector.covers rule = true ↔
      selector = every ∨
        ∃ name, selector = named name ∧
          Text.lower name = Text.lower rule.toList := by
  cases selector with
  | every => simp [covers]
  | named name => simp [covers, Text.sameIgnoringCase_iff]

/-- The selectors of a rule list: names between commas and white space.  No
name, or an asterisk among the names, selects every rule. -/
def ofList (names : Text) : List Selector :=
  let words :=
    (Text.splitOn (fun character => character == ',' || Text.isBlank character)
      names).filter fun word => !word.isEmpty
  if words.isEmpty || words.contains ['*'] then [every]
  else words.map ofName

end Selector

end QueryLint
