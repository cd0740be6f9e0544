/-!
Paths as texts. A path is split at its slashes; what a path means depends on the
files that exist, but some operations work on its text alone.
-/

namespace Runbook.Files.Path

def splitOn (separator : Char) : List Char → List (List Char)
  | [] => [[]]
  | c :: rest =>
      match splitOn separator rest with
      | [] => [[c]]
      | part :: parts =>
          if c == separator then [] :: part :: parts else (c :: part) :: parts

/-- The names between slashes. Empty names are kept. -/
def names (path : String) : List String :=
  (splitOn '/' path.toList).map String.ofList

def isAbsolute (path : String) : Bool := path.toList.head? == some '/'

/-- The slashes that a path keeps at its start: none, one, or exactly two. -/
def root (path : String) : String :=
  match path.toList with
  | '/' :: '/' :: '/' :: _ => "/"
  | '/' :: '/' :: _ => "//"
  | '/' :: _ => "/"
  | _ => ""

def isTrivial (name : String) : Bool := name == "" || name == "."

/-- A path without empty names and names that stay where they are. -/
def tidy (path : String) : String :=
  let kept := (names path).filter fun name => !isTrivial name
  let result := root path ++ "/".intercalate kept
  if result == "" then "." else result

/-- A path seen from a directory. An absolute path stands on its own. -/
def join (directory path : String) : String :=
  if isAbsolute path then path
  else if directory == "" || directory.toList.getLast? == some '/' then directory ++ path
  else directory ++ "/" ++ path

/-- The tidy form of a path seen from a directory. -/
def below (directory path : String) : String := tidy (join directory path)

/-- Take a step back for each name that is a pair of dots. The names are held in
reverse. -/
def cancelParents (absolute : Bool) : (kept : List String) → List String → List String
  | kept, [] => kept.reverse
  | kept, name :: rest =>
      if isTrivial name then cancelParents absolute kept rest
      else if name == ".." then
        match kept with
        | [] => if absolute then cancelParents absolute [] rest else cancelParents absolute [".."] rest
        | last :: before =>
            if last == ".." then cancelParents absolute (".." :: kept) rest
            else cancelParents absolute before rest
      else cancelParents absolute (name :: kept) rest

/-- A path without detours, worked out on its text alone. -/
def normalize (path : String) : String :=
  let kept := cancelParents (isAbsolute path) [] (names path)
  let result := root path ++ "/".intercalate kept
  if result == "" then "." else result

/-- The absolute form of a path, seen from a working directory. -/
def absolute (workingDirectory path : String) : String :=
  normalize (if isAbsolute path then path else join workingDirectory path)

/-- A path without the extension of its last name. Dots at the start of the name
belong to the name. -/
def withoutExtension (path : String) : String :=
  let reversed := path.toList.reverse
  let nameReversed := reversed.takeWhile (· != '/')
  let extension := nameReversed.takeWhile (· != '.')
  let before := nameReversed.drop (extension.length + 1)
  if extension.length < nameReversed.length && before.any (· != '.') then
    String.ofList (reversed.drop (extension.length + 1)).reverse
  else path

end Runbook.Files.Path
