import QueryLint.Text.Quoted
import QueryLint.Toml.Entries
import QueryLint.Toml.Scalar

/-!
# TOML documents

A document is a sequence of lines that give values to keys or name the table to
which the following keys belong.
-/

namespace QueryLint.Toml

/-- Why a text is no document; lines are numbered from one. -/
inductive Error where
  | malformed (line : Nat)
  | clash (line : Nat) (clash : Clash)
  deriving DecidableEq, Repr, Inhabited

namespace Error

def message : Error → String
  | malformed line => s!"TOML parse error on line {line}: malformed text"
  | clash line (.duplicate key) =>
      s!"TOML parse error on line {line}: duplicate key {Text.quoted key}"
  | clash line (.notTable key) =>
      s!"TOML parse error on line {line}: {Text.quoted key} is no table"

end Error

/-- A character of a key without quotes. -/
def isKeyPart (character : Char) : Bool :=
  character.isAlphanum || character == '_' || character == '-'

def readKey (text : Text) : Except Text (String × Text) :=
  match text with
  | '"' :: _ => readQuotedKey '"' text
  | '\'' :: _ => readQuotedKey '\'' text
  | _ =>
      let word := text.takeWhile isKeyPart
      if word.isEmpty then .error text
      else .ok (String.ofList word, text.dropWhile isKeyPart)

/-- Most names that dots may join. -/
def maxNames : Nat := 80

/-- Reads keys with dots between them, at most as many as the limit allows. -/
def readKeysFrom : (limit : Nat) → Text → Except Text (List String × Text)
  | 0, text => .error text
  | limit + 1, text => do
      let (key, rest) ← readKey (skipSpaces text)
      match skipSpaces rest with
      | '.' :: more => do
          let (keys, rest) ← readKeysFrom limit more
          return (key :: keys, rest)
      | rest => return ([key], rest)

/-- Reads keys with dots between them: those before the last one, and the last
one. -/
def readKeys (text : Text) : Except Text ((List String × String) × Text) := do
  let (keys, rest) ← readKeysFrom maxNames text
  return ((keys.dropLast, keys.getLastD ""), rest)

def maxDepth : Nat := 80

/-- Reads the items of a list up to its closing bracket, for as many items as
the fuel allows. -/
def readItems (readItem : Text → Except Text (Value × Text)) :
    (fuel : Nat) → Text → Except Text (List Value × Text)
  | 0, text => .error text
  | fuel + 1, text => do
      match ← skipTrivia false text with
      | ']' :: rest => return ([], rest)
      | start => do
          let (value, rest) ← readItem start
          match ← skipTrivia false rest with
          | ',' :: rest => do
              let (values, rest) ← readItems readItem fuel rest
              return (value :: values, rest)
          | ']' :: rest => return ([value], rest)
          | rest => .error rest

/-- Reads the entries of a table up to its closing brace, for as many entries as
the fuel allows.  Line ends and comments may stand on either side of the equals
sign. -/
def readEntries (readItem : Text → Except Text (Value × Text)) :
    (fuel : Nat) → Entries → Text → Except Text (Entries × Text)
  | 0, _, text => .error text
  | fuel + 1, entries, text => do
      match ← skipTrivia false text with
      | '}' :: rest => return (entries, rest)
      | start => do
          let ((keys, key), rest) ← readKeys start
          let rest ← expect '=' (← skipTrivia false rest)
          let (value, rest) ← readItem (← skipTrivia false rest)
          match entries.addDotted keys key value with
          | .error _ => .error start
          | .ok entries => do
              match ← skipTrivia false rest with
              | ',' :: rest => readEntries readItem fuel entries rest
              | '}' :: rest => return (entries, rest)
              | rest => .error rest

/-- Reads a value that holds values down to the given depth. -/
def readValue : (depth : Nat) → Text → Except Text (Value × Text)
  | depth, text =>
      match text with
      | '"' :: _ => (readQuoted '"' text).map fun read => (.text read.1, read.2)
      | '\'' :: _ =>
          (readQuoted '\'' text).map fun read => (.text read.1, read.2)
      | '[' :: rest =>
          match depth with
          | 0 => .error text
          | depth + 1 =>
              (readItems (readValue depth) (rest.length + 1) rest).map
                fun read =>
                  (.list read.1, read.2)
      | '{' :: rest =>
          match depth with
          | 0 => .error text
          | depth + 1 =>
              (readEntries (readValue depth) (rest.length + 1) [] rest).map
                fun read =>
                  (.table (finishEntries read.1), read.2)
      | _ => readWord text

/-- One line of a document. -/
inductive Statement where
  | table (keys : List String) (key : String)
  | tables (keys : List String) (key : String)
  | value (keys : List String) (key : String) (value : Value)

def readStatement (text : Text) : Except Text (Statement × Text) :=
  match text with
  | '[' :: '[' :: rest => do
      let ((keys, key), rest) ← readKeys rest
      let rest ← expect ']' rest
      let rest ← expect ']' rest
      return (.tables keys key, ← endLine false rest)
  | '[' :: rest => do
      let ((keys, key), rest) ← readKeys rest
      let rest ← expect ']' rest
      return (.table keys key, ← endLine false rest)
  | _ => do
      let ((keys, key), rest) ← readKeys text
      let rest ← expect '=' rest
      let (value, rest) ← readValue maxDepth (skipSpaces rest)
      return (.value keys key value, ← endLine false rest)

/-- A document under construction: its entries and the keys of the table that
was named last. -/
structure Draft where
  entries : Entries
  header : List String

namespace Draft

def empty : Draft :=
  ⟨[], []⟩

def take (draft : Draft) : Statement → Except Clash Draft
  | .table keys key => do
      return ⟨← draft.entries.addTable keys key, keys ++ [key]⟩
  | .tables keys key => do
      return ⟨← draft.entries.addToTables keys key, keys ++ [key]⟩
  | .value keys key value => do
      return { draft with
        entries := ← draft.entries.addUnder draft.header keys key value }

end Draft

/-- The number of the line at which the rest of a text begins. -/
def lineOf (whole rest : Text) : Nat :=
  (whole.take (whole.length - rest.length)).count '\n' + 1

/-- Reads statements to the end of the text, for as many as the fuel allows. -/
def readStatements (whole : Text) :
    (fuel : Nat) → Draft → Text → Except Error Draft
  | 0, _, text => .error (.malformed (lineOf whole text))
  | fuel + 1, draft, text =>
      match skipTrivia false text with
      | .error failure => .error (.malformed (lineOf whole failure))
      | .ok [] => .ok draft
      | .ok start =>
          match readStatement start with
          | .error failure => .error (.malformed (lineOf whole failure))
          | .ok (statement, rest) =>
              match draft.take statement with
              | .error clash => .error (.clash (lineOf whole start) clash)
              | .ok draft => readStatements whole fuel draft rest

/-- The text without a byte order mark in front. -/
def dropMark : Text → Text
  | '\ufeff' :: rest => rest
  | text => text

/-- The table that a document writes. -/
def Table.ofText (document : String) : Except Error Table :=
  let text := dropMark document.toList
  (readStatements text (text.length + 1) .empty text).map fun draft =>
    finishEntries draft.entries

end QueryLint.Toml
