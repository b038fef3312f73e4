import Spreadsheet.Failure

/-!
# `TextFile.lean` — what is asked of a file before it is read as text

A file has a limit to its size, and a larger one is refused without a look at what is in it. What
remains has to be UTF-8.
-/

set_option autoImplicit false

namespace Spreadsheet.TextFile

/-- Why the content of a file cannot be had. -/
inductive Obstacle where
  /-- There is no file at the path. -/
  | missing
  /-- The path goes through something that is no directory. -/
  | notDirectory
  /-- What is at the path is a directory. -/
  | directory
  /-- The file may not be read. -/
  | denied
  /-- The file cannot be read for another reason. -/
  | other (reason : String)
  deriving DecidableEq, Repr

namespace Obstacle

/-- The message for an obstacle, with the number that the system gives it. -/
def message : Obstacle → String
  | .missing => "No such file or directory (os error 2)"
  | .notDirectory => "Not a directory (os error 20)"
  | .directory => "Is a directory (os error 21)"
  | .denied => "Permission denied (os error 13)"
  | .other reason => reason

/-- Whether there is nothing at the path. -/
def isAbsence : Obstacle → Bool
  | .missing | .notDirectory => true
  | _ => false

end Obstacle

/-- The content of a file, if it can be had. -/
abbrev Content := Except Obstacle ByteArray

/-- The kinds of files that are read. -/
inductive Kind where
  | settings
  | sheet
  deriving DecidableEq, Repr

/-- How a message calls a kind of file. -/
def Kind.name : Kind → String
  | .settings => "config"
  | .sheet => "sheet"

/-- The message for a file that is too large. -/
def refusal (kind : Kind) (path : String) (size limit : Nat) : String :=
  s!"Refusing to read {path}: {kind.name} file too large ({size} bytes, max {limit})"

/-- The text of a file. -/
def read (kind : Kind) (path : String) (limit : Nat) : Content → Except Failure String
  | .error obstacle => .error (.unreadable obstacle.message)
  | .ok bytes =>
    if limit < bytes.size then .error (.unreadable (refusal kind path bytes.size limit))
    else
      match String.fromUTF8? bytes with
      | some text => .ok text
      | none => .error (.unreadable "stream did not contain valid UTF-8")

end Spreadsheet.TextFile
