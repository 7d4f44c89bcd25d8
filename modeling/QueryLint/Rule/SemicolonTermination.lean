import QueryLint.Rule.Finding

/-!
# Missing semicolons

The rule looks at the last line that holds more than white space and finds the
place after its last character, unless that is a semicolon.  The column counts
characters.
-/

namespace QueryLint.SemicolonTermination

/-- The last line that holds more than white space, with its number. -/
def lastStatement? (lines : List Text) : Option (Text × Nat) :=
  (lines.zipIdx 1).reverse.find? fun numbered => !Text.allBlank numbered.1

def check (lines : List Text) : List Finding :=
  match lastStatement? lines with
  | some (line, number) =>
      let statement := Text.trimEnd line
      if statement.getLast? = some ';' then []
      else [⟨number, statement.length + 1,
        "Expected semicolon at end of statement"⟩]
  | none => []

end QueryLint.SemicolonTermination
