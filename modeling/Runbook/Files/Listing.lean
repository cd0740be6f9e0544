import Runbook.Files.Tree
import Runbook.Pattern.Search

/-!
Listing the entries of a directory, either those in it or all below it. A link
counts as what it leads to, but a listing does not go on behind a link.
-/

namespace Runbook.Files

structure Listed where
  name : String
  path : String
  isDirectory : Bool
  deriving DecidableEq, Repr

/-- Whether an entry found at a path is a directory or leads to one. A link may lead
to nothing, but it is an error if it cannot be followed for another reason. -/
def FileSystem.leadsDown (files : FileSystem) (path : String) : Node → Except Error Bool
  | .directory _ | .closed => .ok true
  | .file _ => .ok false
  | .link _ =>
      match files.locate true path with
      | .ok place => .ok (place.node.any Node.isDirectory)
      | .error .missing => .ok false
      | .error fault => .error (.at fault path)

/-- The entries of the directory at a path. -/
def Entries.list (files : FileSystem) (path : String) (entries : Entries) :
    Except Error (List Listed) :=
  entries.toList.mapM fun (name, node) => do
    let below := Path.join path name
    return ⟨name, below, ← files.leadsDown below node⟩

mutual

/-- The entries below a node at a path. A directory that is closed or whose path is too
long cannot be opened. -/
def Node.walk (files : FileSystem) (path : String) : Node → List Listed
  | .directory entries =>
      if pathLimit ≤ path.utf8ByteSize then [] else entries.walk files path
  | _ => []

/-- The given entries of a directory and all entries below them. A link that cannot be
followed is no directory. -/
def Entries.walk (files : FileSystem) (path : String) : Entries → List Listed
  | .nil => []
  | .cons name node rest =>
      let below := Path.join path name
      ⟨name, below, (files.leadsDown below node).toOption.getD false⟩ ::
        Node.walk files below node ++ rest.walk files path

end

/-- Everything that a listing of a directory comes across. -/
def FileSystem.entries (files : FileSystem) (recursive : Bool) (directory : String) :
    Except Error (List Listed) :=
  match files.look directory with
  | .ok (_, .directory entries) =>
      if recursive then .ok (entries.walk files directory) else entries.list files directory
  | .ok (_, .closed) => if recursive then .ok [] else .error (.at .denied directory)
  | _ => .ok []

/-- The absolute paths of the directories, or of the other entries, whose names
match a pattern, in the order of their code points. -/
def FileSystem.list (files : FileSystem) (recursive directories : Bool)
    (pattern : Option Pattern) (directory : String) : Except Error (List String) := do
  let wanted := (← files.entries recursive directory).filter fun entry =>
    entry.isDirectory == directories &&
      pattern.all fun pattern => pattern.fullMatch entry.name.toList
  return (wanted.map fun entry => Path.absolute files.workingPath entry.path).mergeSort
    fun a b => a ≤ b

/-! ## Deleting -/

/-- The last name of a path, not counting slashes at its end, and whether there
are any. -/
def lastName (path : String) : String × Bool :=
  let reversed := path.toList.reverse
  let body := reversed.dropWhile (· == '/')
  (String.ofList (body.takeWhile (· != '/')).reverse, body.length < reversed.length)

mutual

/-- What is left of a node as it is deleted, and the name of the closed directory at
which this ends. A node that can be deleted leaves nothing. -/
def Node.remains (name : String) : Node → Option (Node × String)
  | .file _ | .link _ => none
  | .directory entries => entries.remains.map fun (left, closed) => (.directory left, closed)
  | .closed => some (.closed, name)

/-- What is left of entries that are deleted one after the other. -/
def Entries.remains : Entries → Option (Entries × String)
  | .nil => none
  | .cons name node rest =>
      match node.remains name with
      | some (left, closed) => some (.cons name left rest, closed)
      | none => rest.remains

end

/-- Delete a directory with everything in it, up to the first directory in it that is
closed. What is in it is gone even if the directory itself cannot be deleted under the
path given. -/
def FileSystem.deleteDirectory (files : FileSystem) (path : String) :
    FileSystem × Option Error :=
  match files.locate false path with
  | .error fault => (files, some (.at fault path))
  | .ok ⟨_, none⟩ => (files, some (.at .missing path))
  | .ok ⟨_, some (.link _)⟩ => (files, some .linkedDirectory)
  | .ok ⟨_, some (.file _)⟩ => (files, some (.at .notADirectory path))
  | .ok ⟨_, some .closed⟩ => (files, some (.at .denied path))
  | .ok ⟨names, some (.directory entries)⟩ =>
      match entries.remains with
      | some (left, closed) =>
          ({ files with root := files.root.put names (.directory left) },
            some (.at .denied closed))
      | none =>
          let emptied := { files with root := files.root.put names .emptyDirectory }
          let (name, slashed) := lastName path
          let bare := String.ofList (path.toList.reverse.dropWhile (· == '/')).reverse
          let throughLink := slashed &&
            match files.locate false bare with
            | .ok ⟨_, some (.link _)⟩ => true
            | _ => false
          if throughLink then (emptied, some (.at .notADirectory path))
          else if name == "." then (emptied, some (.at .invalid path))
          else if name == ".." then (emptied, some (.at .notEmpty path))
          else ({ files with root := files.root.delete names }, none)

end Runbook.Files
