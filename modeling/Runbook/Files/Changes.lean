import Runbook.Files.Tree

/-!
What has changed between two trees of files. Links and closed directories are not
looked into: they are compared by nothing, and so never changed.
-/

namespace Runbook.Files

/-- One thing to do to a tree, at an absolute path. -/
inductive Change
  | create (directory : String)
  | write (file : String) (content : ByteArray)
  | removeFile (path : String)
  | removeDirectory (path : String)

/-- The removal of what is at a path. Links and closed directories stay. -/
def Node.removal (path : String) : Node → List Change
  | .file _ => [.removeFile path]
  | .link _ | .closed => []
  | .directory _ => [.removeDirectory path]

def Entries.removals (path : String) (remaining : Entries) : (entries : Entries) → List Change
  | .nil => []
  | .cons name node rest =>
      let gone := match remaining.get? name with
        | some _ => []
        | none => node.removal (path ++ "/" ++ name)
      gone ++ Entries.removals path remaining rest

mutual

/-- What has to be done at a path, where there was something else or nothing. -/
def Node.changes (path : String) (before : Option Node) : (after : Node) → List Change
  | .link _ | .closed => []
  | .file content =>
      match before with
      | some (.file old) => if old == content then [] else [.write path content]
      | some (.directory _) => [.removeDirectory path, .write path content]
      | _ => [.write path content]
  | .directory entries =>
      match before with
      | some (.directory old) => Entries.removals path entries old ++ Entries.changes path old entries
      | some (.file _) => .removeFile path :: .create path :: Entries.changes path .nil entries
      | _ => .create path :: Entries.changes path .nil entries

def Entries.changes (path : String) (before : Entries) : (after : Entries) → List Change
  | .nil => []
  | .cons name node rest =>
      Node.changes (path ++ "/" ++ name) (before.get? name) node ++
        Entries.changes path before rest

end

/-- What turns the first file system into the second one. -/
def FileSystem.changes (before after : FileSystem) : List Change :=
  Node.changes "" (some before.root) after.root

end Runbook.Files
