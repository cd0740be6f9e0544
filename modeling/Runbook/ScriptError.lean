import Runbook.Script.LogicalLine
import Runbook.Tokens
import Runbook.Variables

/-!
The errors that a script can have. Each kind of error has a name; an error without
a text of its own is described by the name of its kind.
-/

namespace Runbook

inductive ScriptError
  | other (text : Option String)
  | indentation (number : Int) (line : String) (text : Option String)
  | unknownCommand (name : String)
  | missingProfile (command : String)
  | unknownProfile (name : String)
  | quoting (text : Option String)
  | options (text : Option String)
  | misplaced (text : Option String)
  | unknownVariable (name : String)
  | expansion (text : Option String)
  | filter (text : Option String)
  deriving DecidableEq, Repr

namespace ScriptError

def kind : ScriptError → String
  | .other _ => "script"
  | .indentation _ _ _ => "indentation"
  | .unknownCommand _ => "unknown-command"
  | .missingProfile _ => "missing-environment"
  | .unknownProfile _ => "invalid-environment"
  | .quoting _ => "option-split"
  | .options _ => "option-parse"
  | .misplaced _ => "structure"
  | .unknownVariable _ => "variable-not-found"
  | .expansion _ => "variable-expansion"
  | .filter _ => "filter-configuration"

def message (error : ScriptError) : String :=
  match error with
  | .indentation number line none =>
      s!"Line {number} mixes tabs and blanks for indentation: {line}"
  | .unknownCommand name => s!"Unknown command: {name}"
  | .missingProfile command => s!"No environment supplied for command '{command}'!"
  | .unknownProfile name => s!"Invalid environment supplied: {name}"
  | .unknownVariable name => s!"Variable not present: {name}"
  | .other text | .indentation _ _ text | .quoting text | .options text | .misplaced text
  | .expansion text | .filter text => text.getD error.kind

def ofIndentation (error : Script.IndentationError) : ScriptError :=
  .indentation error.line.number (String.ofList error.line.text) (some error.message)

def ofTokens (line : String) (fault : Tokens.Fault) : ScriptError :=
  .quoting (some s!"Failed to split options ({fault.message}): {line}")

def ofExpansion (error : Variables.ExpansionError) : ScriptError :=
  .expansion (some error.message)

def ofOptions (program : String) (message : String) : ScriptError :=
  .options (some s!"{program}: {message}")

end ScriptError

end Runbook
