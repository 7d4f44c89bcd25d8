import QueryLint.Text.Keyword
import QueryLint.Rule.Finding

/-!
# Print statements

The rule finds a line whose first word is `PRINT`.  The column counts bytes of
the line in UTF-8.
-/

namespace QueryLint.PrintStatement

def columns (line : Text) : List Nat :=
  let statement := Text.trimStart line
  match Text.afterKeyword? "print".toList statement with
  | some rest =>
      if Text.endsWord rest then
        [Text.byteLength line - Text.byteLength statement + 1]
      else []
  | none => []

def check (lines : List Text) : List Finding :=
  Finding.onEachLine "PRINT statement found" columns lines

end QueryLint.PrintStatement
