import QueryLint.Files.ErrorText

/-!
# File errors

A call to the file system fails with an error number, or is refused before it is
made.
-/

namespace QueryLint

/-- Why a file could not be used. -/
inductive FileError where
  | system (number : Nat)
  | refused (reason : String)
  deriving DecidableEq, Repr, Inhabited

namespace FileError

/-- There is no such entry. -/
def noEntry : FileError :=
  .system 2

/-- A path goes through something that is no folder. -/
def notFolder : FileError :=
  .system 20

def isFolder : FileError :=
  .system 21

/-- The device has no room. -/
def noSpace : FileError :=
  .system 28

def nameTooLong : FileError :=
  .system 36

def tooManyLinks : FileError :=
  .system 40

def embeddedNul : FileError :=
  .refused "file name contained an unexpected NUL byte"

/-- The bytes are no UTF-8 text. -/
def notText : FileError :=
  .refused "stream did not contain valid UTF-8"

def message : FileError → String
  | system number => s!"{systemErrorText number} (os error {number})"
  | refused reason => reason

/-- The path cannot be the name of any entry, so that a text which was taken for
a path may be something else. -/
def namesNothing (error : FileError) : Bool :=
  error = noEntry || error = notFolder || error = nameTooLong ||
    error = embeddedNul

end FileError

end QueryLint
