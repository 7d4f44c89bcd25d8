import QueryLint.Ordered
import QueryLint.Toml.Value

/-!
# Tables under construction

A document defines its tables piece by piece.  A table may be mentioned before
it is defined, it is defined once, and the keys of a value may define tables on
their way; what has been defined in one way is not extended in another.
-/

namespace QueryLint.Toml

/-- What stands under a key while a document is read.  A table is implicit as
long as it is only mentioned, and dotted when the keys of a value define it; of
a list of tables the last is under construction. -/
inductive Item where
  | value (value : Value)
  | table (implicit dotted : Bool) (entries : List (String × Item))
  | tables (earlier : List (List (String × Item))) (last : List (String × Item))

/-- A table under construction. -/
abbrev Entries := List (String × Item)

/-- Why a definition is refused. -/
inductive Clash where
  | duplicate (key : String)
  | notTable (key : String)
  deriving DecidableEq, Repr, Inhabited

namespace Entries

/-- Changes the table to which keys lead from this one, and which is dotted or
not.  With `dotted` the keys are those of a value. -/
def within (dotted : Bool)
    (change : (isDotted : Bool) → Entries → Except Clash Entries) :
    (isDotted : Bool) → List String → Entries → Except Clash Entries
  | isDotted, [], entries => change isDotted entries
  | _, key :: keys, entries =>
      match Ordered.find? key entries with
      | none => do
          let inner ← within dotted change dotted keys []
          return Ordered.put key (.table true dotted inner) entries
      | some (.table implicit isDotted present) =>
          if dotted && !implicit then .error (.duplicate key)
          else do
            let inner ← within dotted change isDotted keys present
            return Ordered.put key (.table implicit isDotted inner) entries
      | some (.tables earlier last) => do
          let inner ← within dotted change false keys last
          return Ordered.put key (.tables earlier inner) entries
      | some (.value _) => .error (.notTable key)

def addValue (key : String) (value : Value) (entries : Entries) :
    Except Clash Entries :=
  if Ordered.has key entries then .error (.duplicate key)
  else .ok (Ordered.put key (.value value) entries)

/-- Adds a value under keys, all but the last of which lead to its table. -/
def addDotted (keys : List String) (key : String) (value : Value)
    (entries : Entries) :
    Except Clash Entries :=
  within true (fun isDotted inner =>
    if isDotted = keys.isEmpty then .error (.duplicate key)
    else addValue key value inner)
    false keys entries

def addTable (keys : List String) (key : String) (entries : Entries) :
    Except Clash Entries :=
  within false (fun _ inner =>
    match Ordered.find? key inner with
    | none => .ok (Ordered.put key (.table false false []) inner)
    | some (.table true false present) =>
        .ok (Ordered.put key (.table false false present) inner)
    | some _ => .error (.duplicate key)) false keys entries

def addToTables (keys : List String) (key : String) (entries : Entries) :
    Except Clash Entries :=
  within false (fun _ inner =>
    match Ordered.find? key inner with
    | none => .ok (Ordered.put key (.tables [] []) inner)
    | some (.tables earlier last) =>
        .ok (Ordered.put key (.tables (earlier ++ [last]) []) inner)
    | some _ => .error (.duplicate key)) false keys entries

/-- Adds a value under keys to the table that a header has named. -/
def addUnder (header keys : List String) (key : String) (value : Value)
    (entries : Entries) : Except Clash Entries :=
  within false (fun _ inner => addDotted keys key value inner) false header
    entries

end Entries

mutual

def Item.finish : Item → Value
  | .value value => value
  | .table _ _ entries => .table (finishEntries entries)
  | .tables earlier last =>
      .list (finishTables earlier ++ [.table (finishEntries last)])

def finishEntries : List (String × Item) → List (String × Value)
  | [] => []
  | (key, item) :: rest => (key, item.finish) :: finishEntries rest

def finishTables : List (List (String × Item)) → List Value
  | [] => []
  | entries :: rest => .table (finishEntries entries) :: finishTables rest

end

end QueryLint.Toml
