import QueryLint.Text.Basic

/-!
# Findings

A finding is the place and the text of what a rule objects to.  Lines and
columns are numbered from one.
-/

namespace QueryLint

/-- Place and text of what a rule objects to. -/
structure Finding where
  line : Nat
  column : Nat
  message : String
  deriving DecidableEq, Repr, Inhabited

namespace Finding

def onEachLine (message : String) (columns : Text → List Nat)
    (lines : List Text) :
    List Finding :=
  (lines.zipIdx 1).flatMap fun (line, number) =>
    (columns line).map fun column => ⟨number, column, message⟩

end Finding

end QueryLint
