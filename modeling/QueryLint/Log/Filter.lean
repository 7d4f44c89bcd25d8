import QueryLint.Log.Record
import QueryLint.Text.Basic

/-!
# Which records are kept

A filter is written as a list of levels between commas.  A level alone is for
all targets, and a level after a name and an equals sign for the targets that
start with the name; the longest name decides.  A text after a slash keeps only
the records that contain it.
-/

namespace QueryLint.Log

/-- The least important level that is kept; `off` keeps no record. -/
inductive Threshold where
  | off
  | error
  | warn
  | info
  | debug
  | trace
  deriving DecidableEq, Repr, Inhabited

namespace Threshold

/-- Every threshold, in the order in which they are listed for users. -/
def all : List Threshold :=
  [trace, debug, info, warn, error, off]

def name : Threshold → String
  | off => "off"
  | error => "error"
  | warn => "warn"
  | info => "info"
  | debug => "debug"
  | trace => "trace"

def ofName? (text : String) : Option Threshold :=
  all.find? fun threshold => threshold.name == text

def ofAnyCase? (text : String) : Option Threshold :=
  ofName? (String.ofList (Text.lower text.toList))

/-- Rank of the least important level that is kept. -/
def rank : Threshold → Nat
  | off => 0
  | error => 1
  | warn => 2
  | info => 3
  | debug => 4
  | trace => 5

def keeps (threshold : Threshold) (level : Level) : Bool :=
  level.rank ≤ threshold.rank

end Threshold

/-- A threshold for targets that start with a name, or for all targets. -/
structure Clause where
  target? : Option Text
  threshold : Threshold
  deriving DecidableEq, Repr, Inhabited

namespace Clause

def weight (clause : Clause) : Nat :=
  match clause.target? with
  | some name => Text.byteLength name
  | none => 0

def covers (clause : Clause) (target : Text) : Bool :=
  match clause.target? with
  | some name => name.isPrefixOf target
  | none => true

/-- A name holds no white space. -/
def isName (text : Text) : Bool :=
  !text.any Text.isBlank

/-- The clause that one part of a list writes. -/
def ofPart? (part : Text) : Option Clause :=
  match (Text.splitOn (fun character => character == '=') part).map
    Text.trim with
  | [word] =>
      if isName word then
        match Threshold.ofAnyCase? (String.ofList word) with
        | some threshold => some ⟨none, threshold⟩
        | none => some ⟨some word, .trace⟩
      else none
  | [name, level] =>
      if !isName name then none
      else if level.isEmpty then some ⟨some name, .trace⟩
      else
        (Threshold.ofAnyCase? (String.ofList level)).map fun threshold =>
          ⟨some name, threshold⟩
  | _ => none

end Clause

/-- Clauses with the longest names first, and a text that records have to
contain. -/
structure Filter where
  clauses : List Clause
  required : Text
  deriving DecidableEq, Repr, Inhabited

namespace Filter

/-- A clause put behind those with names at least as long. -/
def insertClause (clause : Clause) : List Clause → List Clause
  | [] => [clause]
  | other :: rest =>
      if other.weight < clause.weight then clause :: other :: rest
      else other :: insertClause clause rest

def clauses? (list : Text) : Option (List Clause) :=
  let parts :=
    (Text.splitOn (fun character => character == ',') list).map Text.trim
  let written := parts.filter fun part => !part.isEmpty
  (written.mapM Clause.ofPart?).map fun clauses =>
    clauses.foldl (fun sorted clause => insertClause clause sorted) []

/-- The filter that a text writes. -/
def ofText? (text : String) : Option Filter :=
  match Text.splitOn (fun character => character == '/') text.toList with
  | [list] => (clauses? list).map fun clauses => ⟨clauses, []⟩
  | [list, required] => (clauses? list).map fun clauses => ⟨clauses, required⟩
  | _ => none

def contains (part : Text) : Text → Bool
  | [] => part.isEmpty
  | character :: rest =>
      part.isPrefixOf (character :: rest) || contains part rest

def keeps (filter : Filter) (record : Record) : Bool :=
  match filter.clauses.find? fun clause =>
    clause.covers record.target.toList with
  | some clause =>
      clause.threshold.keeps record.level &&
        contains filter.required record.message.toList
  | none => false

end Filter

end QueryLint.Log
