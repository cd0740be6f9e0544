import Runbook.Association
import Runbook.Document.Value
import Runbook.Fault
import Runbook.Text.Blank

/-!
Launch profiles: which program to start, with what arguments, environment
variables and working directory.
-/

namespace Runbook

/-- A launch profile. Each variable occurs once. -/
structure Profile where
  name : String
  executable : String
  arguments : List String
  bindings : List (String × String)
  workingDirectory : Option String
  deriving DecidableEq, Repr

namespace Profile

/-- The fields of a mapping. Other values have none that could be asked for. -/
def fieldsOf (use : String) : Document.Value → Except Fault Document.Fields
  | .mapping fields => .ok fields
  | value => .error (.attribute s!"'{value.typeName}' object has no attribute '{use}'")

/-- The arguments that a value lists. A text lists its words. -/
def argumentsOf (value : Document.Value) : Except Fault (List String) :=
  if !value.isTrue then .ok []
  else
    match value with
    | .text text => .ok ((Text.words text.toList).map String.ofList)
    | .sequence elements | .set elements => .ok (elements.toList.map Document.Value.write)
    | .pair first second => .ok [first.write, second.write]
    | .mapping fields => .ok (fields.toList.map fun field => field.1.write)
    | .bytes bytes => .ok (bytes.map fun byte => toString byte.toNat)
    | value => .error (.type s!"'{value.typeName}' object is not iterable")

def variablesOf (value : Document.Value) : Except Fault (List (String × String)) :=
  if !value.isTrue then .ok []
  else do
    let fields ← fieldsOf "items" value
    return Association.ofList (fields.toList.map fun (key, value) => (key.write, value.write))

def ofValue (value : Document.Value) : Except Fault Profile := do
  let fields ← fieldsOf "get" value
  let name := fields.field "name"
  let executable := fields.field "executable"
  if !name.isTrue || !executable.isTrue then
    throw (.value "Environment requires 'name' and 'executable'")
  else
    let arguments ← argumentsOf (fields.field "arguments")
    let bindings ← variablesOf (fields.field "variables")
    let directory := fields.field "workdir"
    return {
      name := name.write
      executable := executable.write
      arguments := arguments
      bindings := bindings
      workingDirectory := if directory.isTrue then some directory.write else none }

/-- Lines that describe a profile, each with `start` in front. -/
def describe (profile : Profile) (start : String) (verbose : Bool) : String :=
  let arguments :=
    if profile.arguments.isEmpty then "<none>" else " ".intercalate profile.arguments
  let directory :=
    match profile.workingDirectory with
    | none | some "" => "<current>"
    | some path => path
  let details := [s!"Executable: {profile.executable}", s!"Arguments: {arguments}"] ++
    (Association.sorted profile.bindings).map (fun (name, value) => s!"Variable: {name}={value}") ++
    [s!"Workdir: {directory}"]
  let lines := s!"Name: {profile.name}" :: if verbose then details else []
  "\n".intercalate (lines.map (start ++ ·))

end Profile

end Runbook
