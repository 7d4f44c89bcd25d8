import QueryLint.Files.Error
import QueryLint.Text.Basic

/-!
# The file system as a tree

A tree holds files, folders, links and devices by their places, and a place is
the list of names on the way from the root.  A path is followed name by name
from the current folder or the root; a link on the way is replaced by the path
it holds, for at most forty links.
-/

namespace QueryLint

/-- The names on the way from the root to an entry, without links. -/
abbrev Place := List String

/-- What stands at a place. -/
inductive Node where
  | file (bytes : List UInt8)
  /-- A file that nobody may open, and why. -/
  | sealed (reason : FileError)
  | folder
  | link (target : String)
  /-- A device swallows what is written to it, or has no room for it. -/
  | device (full : Bool)
  deriving DecidableEq, Repr, Inhabited

/-- The entries of a file system, with the current folder and the user's home
folder. -/
structure FileTree where
  entries : List (Place × Node)
  current : Place
  home : Option String
  deriving DecidableEq, Repr, Inhabited

/-- Where a path leads. -/
inductive Destination where
  | found (place : Place) (node : Node)
  /-- Nothing stands there yet, in a folder that exists. -/
  | vacant (place : Place)
  deriving DecidableEq, Repr, Inhabited

namespace FileTree

def maxNameLength : Nat := 255

def maxPathLength : Nat := 4095

def maxLinks : Nat := 40

/-- What stands at a place; the root is a folder. -/
def node? (tree : FileTree) (place : Place) : Option Node :=
  if place.isEmpty then some .folder else tree.entries.lookup place

/-- The names between the slashes of a path. -/
def pieces (path : String) : List String :=
  ((Text.splitOn (· == '/') path.toList).map String.ofList).filter fun name =>
    !name.isEmpty

/-- The names of a path.  A path that ends with a slash has an empty last name,
which only a folder fulfils. -/
def names (path : String) : List String :=
  if path.endsWith "/" then pieces path ++ [""] else pieces path

/-- The place from which a path is followed. -/
def origin (path : String) (folder : Place) : Place :=
  if path.startsWith "/" then [] else folder

/-- Follows names from a place that may be no folder.  With `creating` the last
name is about to be created, and must not ask for a folder. -/
def follow (tree : FileTree) (creating : Bool) :
    (links : Nat) → (place : Place) → List String → Except FileError Destination
  | _, place, [] =>
      match tree.node? place with
      | some node => .ok (.found place node)
      | none => .error .noEntry
  | links, place, name :: rest =>
      if tree.node? place ≠ some .folder then .error .notFolder
      else if name = "" || name = "." then follow tree creating links place rest
      else if name = ".." then follow tree creating links place.dropLast rest
      else if creating && rest = [""] then .error .isFolder
      else if maxNameLength < name.utf8ByteSize then .error .nameTooLong
      else
        match tree.node? (place ++ [name]) with
        | none => if rest.isEmpty then .ok (.vacant (place ++ [name]))
            else .error .noEntry
        | some (.link target) =>
            match links with
            | 0 => .error .tooManyLinks
            | links + 1 =>
                follow tree creating links (origin target place)
                  (names target ++ rest)
        | some _ => follow tree creating links (place ++ [name]) rest
termination_by links _ rest => (links, rest.length)

/-- Where a path leads. -/
def destination (tree : FileTree) (creating : Bool) (path : String) :
    Except FileError Destination :=
  if path.toList.contains '\x00' then .error .embeddedNul
  else if path.isEmpty then .error .noEntry
  else if maxPathLength < path.utf8ByteSize then .error .nameTooLong
  else tree.follow creating maxLinks (origin path tree.current) (names path)

/-- What stands where a path leads. -/
def find (tree : FileTree) (path : String) : Except FileError Node :=
  match tree.destination false path with
  | .error error => .error error
  | .ok (.found _ node) => .ok node
  | .ok (.vacant _) => .error .noEntry

def has (tree : FileTree) (path : String) : Bool :=
  (tree.find path).toOption.isSome

def isFile (tree : FileTree) (path : String) : Bool :=
  match tree.find path with
  | .ok (.file _) | .ok (.sealed _) => true
  | _ => false

def isFolder (tree : FileTree) (path : String) : Bool :=
  match tree.find path with
  | .ok .folder => true
  | _ => false

/-- The bytes of the file to which a path leads. -/
def read (tree : FileTree) (path : String) : Except FileError (List UInt8) :=
  match tree.find path with
  | .error error => .error error
  | .ok (.file bytes) => .ok bytes
  | .ok (.sealed reason) => .error reason
  | .ok .folder => .error .isFolder
  | .ok (.device _) => .ok []
  | .ok (.link _) => .error .tooManyLinks

/-- The text of the file to which a path leads. -/
def readText (tree : FileTree) (path : String) : Except FileError String :=
  match tree.read path with
  | .error error => .error error
  | .ok bytes =>
      match String.fromUTF8? bytes.toByteArray with
      | some text => .ok text
      | none => .error .notText

def put (tree : FileTree) (place : Place) (node : Node) : FileTree :=
  { tree with
    entries := (place, node) :: tree.entries.filter fun entry =>
      entry.1 != place }

/-- Writes a file where the path leads, in place of the one that was there. -/
def write (tree : FileTree) (path : String) (bytes : List UInt8) :
    Except FileError FileTree :=
  match tree.destination true path with
  | .error error => .error error
  | .ok (.vacant place) => .ok (tree.put place (.file bytes))
  | .ok (.found place (.file _)) => .ok (tree.put place (.file bytes))
  | .ok (.found _ (.sealed reason)) => .error reason
  | .ok (.found _ .folder) => .error .isFolder
  | .ok (.found _ (.device full)) =>
      if full && !bytes.isEmpty then .error .noSpace else .ok tree
  | .ok (.found _ (.link _)) => .error .tooManyLinks

/-- The path of the folder around what a path names, if the path has one. -/
def parentPath (path : String) : String :=
  let folder := "/".intercalate (pieces path).dropLast
  if path.startsWith "/" then "/" ++ folder else folder

/-- Makes the folder at a path, and the folders around it where they are
missing; the names still to come are given outermost first. -/
def makeFolders (tree : FileTree) (folder : String) :
    List String → Except FileError FileTree
  | [] => .ok tree
  | name :: rest =>
      let path := if folder.isEmpty then name else folder ++ "/" ++ name
      match tree.destination false path with
      | .error error => .error error
      | .ok (.found _ .folder) => makeFolders tree path rest
      | .ok (.found _ _) => .error .notFolder
      | .ok (.vacant place) => makeFolders (tree.put place .folder) path rest

def makeParent (tree : FileTree) (path : String) : Except FileError FileTree :=
  let start := if path.startsWith "/" then "/" else ""
  tree.makeFolders start (pieces (parentPath path))

def inHome (tree : FileTree) (name : String) : Option String :=
  tree.home.map fun home => if home.endsWith "/" then home ++ name
    else home ++ "/" ++ name

end FileTree

end QueryLint
