import QueryLint.Text.Basic

/-!
# Lists of names

Names stand between commas, with white space around them that does not count.
A list holds each name once, at its first place.
-/

namespace QueryLint

/-- The names between the commas of a text, without the empty ones. -/
def namesIn (text : String) : List String :=
  ((Text.splitOn (fun character => character == ',') text.toList).map
    fun piece =>
      String.ofList (Text.trim piece)).filter fun name => !name.isEmpty

/-- The list with one more name, unless it is there. -/
def addName (names : List String) (name : String) : List String :=
  if names.contains name then names else names ++ [name]

/-- The names in several texts, each once. -/
def nameList (texts : List String) : List String :=
  (texts.flatMap namesIn).foldl addName []

end QueryLint
