import Runbook.Text.Quoted

/-!
Why an operation on files fails.
-/

namespace Runbook.Files

inductive Fault
  | missing
  | denied
  | exists
  | notADirectory
  | isADirectory
  | invalid
  | nameTooLong
  | notEmpty
  | tooManyLinks
  deriving DecidableEq, Repr

namespace Fault

def code : Fault → Nat
  | .missing => 2
  | .denied => 13
  | .exists => 17
  | .notADirectory => 20
  | .isADirectory => 21
  | .invalid => 22
  | .nameTooLong => 36
  | .notEmpty => 39
  | .tooManyLinks => 40

def text : Fault → String
  | .missing => "No such file or directory"
  | .denied => "Permission denied"
  | .exists => "File exists"
  | .notADirectory => "Not a directory"
  | .isADirectory => "Is a directory"
  | .invalid => "Invalid argument"
  | .nameTooLong => "File name too long"
  | .notEmpty => "Directory not empty"
  | .tooManyLinks => "Too many levels of symbolic links"

/-- Whether a fault tells that a path leads nowhere. -/
def isAbsence : Fault → Bool
  | .missing | .notADirectory | .tooManyLinks => true
  | _ => false

end Fault

/-- A failed operation: a fault at a path, a link where none is allowed, or a path
that cannot be one because it holds a null character. -/
inductive Error
  | at (fault : Fault) (path : String)
  | linkedDirectory
  | nullCharacter
  deriving DecidableEq, Repr

def Error.message : Error → String
  | .at fault path => s!"[Errno {fault.code}] {fault.text}: {Text.quoted path}"
  | .linkedDirectory => "Cannot call rmtree on a symbolic link"
  | .nullCharacter => "embedded null byte"

end Runbook.Files
