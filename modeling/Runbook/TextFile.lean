import Runbook.Fault
import Runbook.Files.Tree

/-!
Files that hold text.
-/

namespace Runbook.Files.FileSystem

/-- The text of a file, which has to be valid UTF-8. -/
def readText (files : FileSystem) (path : String) : Except Runbook.Fault String := do
  let content ← orFault .files (files.read path)
  orFault .encoding (Text.Utf8.decode content)

def leadsToFile (files : FileSystem) (path : String) : Except Runbook.Fault Bool := do
  match ← orFault .files (files.probe path) with
  | some (.file _) => return true
  | _ => return false

def leadsToDirectory (files : FileSystem) (path : String) : Except Runbook.Fault Bool := do
  return (← orFault .files (files.probe path)).any Node.isDirectory

end Runbook.Files.FileSystem
