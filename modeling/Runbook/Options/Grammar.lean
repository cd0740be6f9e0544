import Runbook.Number.Double

/-!
What options a command takes. A parameter is given by one of its flags; a
grammar is the list of parameters in the order in which they are described.
-/

namespace Runbook.Options

/-- What a parameter takes. A switch takes nothing, and the help parameter asks
for the description of the grammar. -/
inductive Kind
  | switch
  | text
  | number
  | help
  deriving DecidableEq, Repr

inductive Setting
  | switch (on : Bool)
  | text (value : String)
  | number (value : Double)
  | texts (values : List String)
  | absent
  deriving DecidableEq, Repr

structure Parameter where
  flags : List String
  name : String
  kind : Kind
  required : Bool
  default : Setting
  description : String
  deriving DecidableEq, Repr

namespace Parameter

/-- A switch, which is off unless it is given. -/
def switch (flag name description : String) : Parameter :=
  ⟨[flag], name, .switch, false, .switch false, description⟩

/-- A text that has to be given. -/
def requiredText (flag name description : String) : Parameter :=
  ⟨[flag], name, .text, true, .absent, description⟩

/-- A text that is empty unless it is given. -/
def optionalText (flag name description : String) : Parameter :=
  ⟨[flag], name, .text, false, .text "", description⟩

/-- The flags as one name for the parameter. -/
def title (parameter : Parameter) : String := "/".intercalate parameter.flags

def takesValue (parameter : Parameter) : Bool :=
  parameter.kind == .text || parameter.kind == .number

end Parameter

/-- The options of a program. With `abbreviations`, a long flag may be cut short.
With `remainder`, everything from the first argument that is no flag is kept
under that name as it stands. -/
structure Grammar where
  program : String
  parameters : List Parameter
  abbreviations : Bool
  remainder : Option (String × String)
  deriving Repr

namespace Grammar

def ofCommand (program : String) (parameters : List Parameter) : Grammar :=
  ⟨program, parameters, false, none⟩

def flags (grammar : Grammar) : List (String × Parameter) :=
  grammar.parameters.flatMap fun parameter => parameter.flags.map fun flag => (flag, parameter)

def find? (grammar : Grammar) (flag : String) : Option Parameter := grammar.flags.lookup flag

end Grammar

end Runbook.Options
