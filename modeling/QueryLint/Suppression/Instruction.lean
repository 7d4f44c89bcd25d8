import QueryLint.Text.Keyword
import QueryLint.Suppression.Selector

/-!
# Instructions in comments

A comment is an instruction when its text, after white space, starts with the
tool's name, a hyphen and one of three keywords.  The rest of the comment is the
list of rules it is about.
-/

namespace QueryLint

/-- What an instruction does from its line on. -/
inductive Action where
  | disable
  | enable
  | disableLine
  deriving DecidableEq, Repr, Inhabited

namespace Action

def keyword : Action → String
  | disable => "disable"
  | enable => "enable"
  | disableLine => "disable-line"

/-- The order in which the keywords are tried; a longer one comes before the
keyword it begins with. -/
def all : List Action :=
  [disableLine, disable, enable]

end Action

/-- An action together with the rules it is about. -/
structure Instruction where
  action : Action
  selectors : List Selector
  deriving DecidableEq, Repr, Inhabited

namespace Instruction

/-- The word with which every instruction begins. -/
def opening : String :=
  "sqllint-"

/-- The text that ends where the keyword begins: an instruction is read only
if the spelling uses ASCII letters. -/
def spelled (keyword text : Text) : Bool :=
  Text.lower (text.take keyword.length) == keyword

/-- The first action whose keyword ends at a word boundary here, with the text
after the keyword.  A keyword spelled with other letters that fold to it takes
the comment, yet names no action. -/
def action? (text : Text) : List Action → Option (Option Action × Text)
  | [] => none
  | action :: others =>
      match Text.afterKeyword? action.keyword.toList text with
      | some rest =>
          if Text.endsWord rest then
            some (if spelled action.keyword.toList text then some action
              else none, rest)
          else action? text others
      | none => action? text others

/-- The instruction in a comment body, if it is one.  A body that holds a line
feed after the keyword is none. -/
def ofComment? (body : Text) : Option Instruction :=
  match Text.afterKeyword? opening.toList (Text.trimStart body) with
  | none => none
  | some text =>
      match action? text Action.all with
      | some (some action, rest) =>
          if rest.contains '\n' then none
          else some ⟨action, Selector.ofList rest⟩
      | _ => none

end Instruction

end QueryLint
