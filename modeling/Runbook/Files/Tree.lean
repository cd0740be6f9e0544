import Runbook.Files.Error
import Runbook.Files.Path

/-!
Trees of files. A directory maps names to files, links and further directories.
A path is followed from a directory name by name; links on the way are followed
too, at most forty of them. Of the rights to files only one thing is told: that a
directory is closed.
-/

namespace Runbook.Files

mutual

/-- What lies at a place. A closed directory may be neither listed nor entered, and so
nothing is known of what it holds. -/
inductive Node
  | file (content : ByteArray)
  | link (target : String)
  | directory (entries : Entries)
  | closed

/-- The entries of a directory, each name of which occurs once. -/
inductive Entries
  | nil
  | cons (name : String) (node : Node) (rest : Entries)

end

namespace Entries

def toList : Entries → List (String × Node)
  | .nil => []
  | .cons name node rest => (name, node) :: rest.toList

def ofList : List (String × Node) → Entries
  | [] => .nil
  | (name, node) :: rest => .cons name node (ofList rest)

def get? : Entries → String → Option Node
  | .nil, _ => none
  | .cons name node rest, wanted => if name = wanted then some node else rest.get? wanted

/-- Replace the entry with this name, or add one at the end. -/
def set : Entries → String → Node → Entries
  | .nil, wanted, value => .cons wanted value .nil
  | .cons name node rest, wanted, value =>
      if name = wanted then .cons name value rest else .cons name node (rest.set wanted value)

def remove : Entries → String → Entries
  | .nil, _ => .nil
  | .cons name node rest, unwanted =>
      if name = unwanted then rest else .cons name node (rest.remove unwanted)

end Entries

namespace Node

def emptyDirectory : Node := .directory .nil

def isDirectory : Node → Bool
  | .directory _ | .closed => true
  | _ => false

/-- The node at the end of a list of names, without following links. -/
def get? : Node → List String → Option Node
  | node, [] => some node
  | .directory entries, name :: rest => (entries.get? name).bind (·.get? rest)
  | _, _ :: _ => none

/-- Change the node at the end of a list of names. Without a result the node is
removed. Where the names lead nowhere nothing changes. -/
def update (change : Option Node → Option Node) : Node → List String → Node
  | node, [] => (change (some node)).getD node
  | .directory entries, [name] =>
      match change (entries.get? name) with
      | some node => .directory (entries.set name node)
      | none => .directory (entries.remove name)
  | .directory entries, name :: rest =>
      match entries.get? name with
      | some node => .directory (entries.set name (node.update change rest))
      | none => .directory entries
  | node, _ => node

def put (root : Node) (place : List String) (node : Node) : Node :=
  root.update (fun _ => some node) place

def delete (root : Node) (place : List String) : Node := root.update (fun _ => none) place

end Node

/-! ## Following paths -/

/-- The end of a path: where it is, and what is there. -/
structure Place where
  names : List String
  node : Option Node

/-- How many links may be followed on one path. -/
def linkLimit : Nat := 40

def nameLimit : Nat := 255

def pathLimit : Nat := 4096

/-- Follow names from a directory. `here` holds the way to it in reverse. With
`final` off, a link at the very end is not followed. `jump` goes on behind a
link. -/
def followNames (root : Node) (final : Bool)
    (jump : (here : List String) → (absolute : Bool) → List String → Except Fault Place) :
    (here : List String) → List String → Except Fault Place
  | here, [] => .ok ⟨here.reverse, root.get? here.reverse⟩
  | here, name :: rest =>
      match root.get? here.reverse with
      | none => .error .missing
      | some (.directory entries) =>
          if Path.isTrivial name then followNames root final jump here rest
          else if name == ".." then followNames root final jump here.tail rest
          else if nameLimit < name.utf8ByteSize then .error .nameTooLong
          else
            match entries.get? name with
            | some (.link target) =>
                if rest.isEmpty && !final then .ok ⟨(name :: here).reverse, some (.link target)⟩
                else if target == "" then .error .missing
                else jump here (Path.isAbsolute target) (Path.names target ++ rest)
            | some _ => followNames root final jump (name :: here) rest
            | none =>
                if rest.isEmpty then .ok ⟨(name :: here).reverse, none⟩ else .error .missing
      | some .closed =>
          if name == "" then followNames root final jump here rest else .error .denied
      | some _ => .error .notADirectory

/-- Follow names through at most `links` links. -/
def follow (root : Node) (final : Bool) :
    (links : Nat) → (here : List String) → List String → Except Fault Place
  | 0, here, names => followNames root final (fun _ _ _ => .error .tooManyLinks) here names
  | links + 1, here, names =>
      followNames root final
        (fun here absolute names => follow root final links (if absolute then [] else here) names)
        here names

/-! ## File systems -/

/-- All files of a machine, and the directory from which relative paths start. -/
structure FileSystem where
  root : Node
  workingDirectory : List String

namespace FileSystem

def workingPath (files : FileSystem) : String := "/" ++ "/".intercalate files.workingDirectory

/-- Find the end of a path. The last name may be missing. -/
def locate (files : FileSystem) (final : Bool) (path : String) : Except Fault Place :=
  if path == "" then .error .missing
  else if pathLimit ≤ path.utf8ByteSize then .error .nameTooLong
  else
    let start := if Path.isAbsolute path then [] else files.workingDirectory.reverse
    follow files.root final linkLimit start (Path.names path)

def look (files : FileSystem) (path : String) : Except Error (List String × Node) :=
  if path.toList.contains '\x00' then .error .nullCharacter
  else
    match files.locate true path with
    | .ok ⟨names, some node⟩ => .ok (names, node)
    | .ok ⟨_, none⟩ => .error (.at .missing path)
    | .error fault => .error (.at fault path)

def lookNode? (files : FileSystem) (path : String) : Option Node :=
  match files.look path with
  | .ok (_, node) => some node
  | .error _ => none

def hasPath (files : FileSystem) (path : String) : Bool := (files.lookNode? path).isSome

def isDirectory (files : FileSystem) (path : String) : Bool :=
  (files.lookNode? path).any Node.isDirectory

def isFile (files : FileSystem) (path : String) : Bool :=
  match files.lookNode? path with
  | some (.file _) => true
  | _ => false

/-- What a path leads to, if anything. It is an error if a path cannot be followed
for another reason than that it leads nowhere. -/
def probe (files : FileSystem) (path : String) : Except Error (Option Node) :=
  match files.look path with
  | .ok (_, node) => .ok (some node)
  | .error (.at fault path) => if fault.isAbsence then .ok none else .error (.at fault path)
  | .error _ => .ok none

def read (files : FileSystem) (path : String) : Except Error ByteArray :=
  match files.look path with
  | .ok (_, .file content) => .ok content
  | .ok (_, .closed) => .error (.at .denied path)
  | .ok _ => .error (.at .isADirectory path)
  | .error error => .error error

/-- Write to a file, which is created if it does not exist. With `append`, the
bytes go behind those that the file already holds. -/
def write (files : FileSystem) (path : String) (content : ByteArray) (append : Bool) :
    Except Error FileSystem :=
  if path.toList.contains '\x00' then .error .nullCharacter
  else
    match files.locate true path with
    | .ok ⟨names, some (.file old)⟩ =>
        let content := if append then old ++ content else content
        .ok { files with root := files.root.put names (.file content) }
    | .ok ⟨_, some _⟩ => .error (.at .isADirectory path)
    | .ok ⟨names, none⟩ => .ok { files with root := files.root.put names (.file content) }
    | .error fault =>
        if fault == .missing && path.toList.getLast? == some '/' &&
            (files.locate true (String.ofList (path.toList.reverse.dropWhile (· == '/')).reverse)).isOk then
          .error (.at .isADirectory path)
        else .error (.at fault path)

end FileSystem

end Runbook.Files
