/-!
# Association lists in ascending order of keys

Names are ordered by their characters, which is also the order of their bytes
in UTF-8.  An entry put under a key takes the place of the one that was there.
-/

namespace QueryLint.Ordered

def find? (key : String) : List (String × α) → Option α
  | [] => none
  | (other, value) :: rest => if key = other then some value else find? key rest

def has (key : String) (entries : List (String × α)) : Bool :=
  (find? key entries).isSome

def put (key : String) (value : α) : List (String × α) → List (String × α)
  | [] => [(key, value)]
  | (other, present) :: rest =>
      if key < other then (key, value) :: (other, present) :: rest
      else if key = other then (key, value) :: rest
      else (other, present) :: put key value rest

def keys (entries : List (String × α)) : List String :=
  entries.map Prod.fst

def values (entries : List (String × α)) : List α :=
  entries.map Prod.snd

/-- Entries in any order brought into ascending order; the last value put under
a key stays. -/
def ofList (entries : List (String × α)) : List (String × α) :=
  entries.foldl (fun sorted entry => put entry.1 entry.2 sorted) []

/-- A set of names with one more name. -/
def add (name : String) : List String → List String
  | [] => [name]
  | other :: rest =>
      if name < other then name :: other :: rest
      else if name = other then other :: rest
      else other :: add name rest

end QueryLint.Ordered
