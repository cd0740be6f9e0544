import Runbook.Document.Fault
import Runbook.Expression.Evaluate
import Runbook.Files.Error
import Runbook.Pattern.Error
import Runbook.Text.Utf8

/-!
What can go wrong while a command runs and is not reported by the command itself.
-/

namespace Runbook

/-- A fault of one of the services that commands use, or a value that does not fit
the place in which it is used. -/
inductive Fault
  | files (error : Files.Error)
  | encoding (fault : Text.Utf8.Fault)
  | pattern (error : Pattern.Error)
  | expression (error : Expression.Error)
  | document (fault : Document.Fault)
  | value (message : String)
  | type (message : String)
  | attribute (message : String)
  | state (message : String)
  | missingSettings (path : String)
  deriving DecidableEq, Repr

namespace Fault

inductive Kind
  | os
  | missingFile
  | permission
  | existingFile
  | noDirectory
  | directory
  | value
  | encoding
  | pattern
  | overflow
  | index
  | key
  | language
  | division
  | type
  | attribute
  | state
  | document (stage : Document.Stage)
  deriving DecidableEq, Repr

def Kind.name : Kind → String
  | .os => "OSError"
  | .missingFile => "FileNotFoundError"
  | .permission => "PermissionError"
  | .existingFile => "FileExistsError"
  | .noDirectory => "NotADirectoryError"
  | .directory => "IsADirectoryError"
  | .value => "ValueError"
  | .encoding => "UnicodeDecodeError"
  | .pattern => "re.error"
  | .overflow => "OverflowError"
  | .index => "IndexError"
  | .key => "KeyError"
  | .language => "SyntaxError"
  | .division => "ZeroDivisionError"
  | .type => "TypeError"
  | .attribute => "AttributeError"
  | .state => "RuntimeError"
  | .document .characters => "yaml.reader.ReaderError"
  | .document .tokens => "yaml.scanner.ScannerError"
  | .document .arrangement => "yaml.parser.ParserError"
  | .document .references => "yaml.composer.ComposerError"
  | .document .values => "yaml.constructor.ConstructorError"

def kindOfFiles : Files.Error → Kind
  | .at .missing _ => .missingFile
  | .at .denied _ => .permission
  | .at .exists _ => .existingFile
  | .at .notADirectory _ => .noDirectory
  | .at .isADirectory _ => .directory
  | .at _ _ => .os
  | .linkedDirectory => .os
  | .nullCharacter => .value

def kindOfPattern (error : Pattern.Error) : Kind :=
  match error.fault.kind with
  | .pattern => .pattern
  | .number => .overflow
  | .digits | .flags => .value
  | .name => .index

def kindOfExpression (error : Expression.Error) : Kind :=
  match error.kind with
  | .reading => .language
  | .refusal => .value
  | .division => .division
  | .range => .overflow
  | .type => .type

def kindOfDocument : Document.Fault → Kind
  | .at stage _ _ => .document stage
  | .impossible _ => .value
  | .unknownWord _ => .key
  | .emptyNumber => .index
  | .decimalTooLarge | .codeTooLarge => .overflow
  | .shapelessMoment => .attribute

def kind : Fault → Kind
  | .files error => kindOfFiles error
  | .encoding _ => .encoding
  | .pattern error => kindOfPattern error
  | .expression error => kindOfExpression error
  | .document fault => kindOfDocument fault
  | .value _ => .value
  | .type _ => .type
  | .attribute _ => .attribute
  | .state _ => .state
  | .missingSettings _ => .missingFile

def message : Fault → String
  | .files error => error.message
  | .encoding fault => fault.message
  | .pattern error => error.message
  | .expression error => error.message
  | .document fault => fault.message
  | .value text => text
  | .type text => text
  | .attribute text => text
  | .state text => text
  | .missingSettings path => s!"Cannot find settings file '{path}'"

def report (fault : Fault) : String := s!"{fault.kind.name}: {fault.message}"

def isSystem (fault : Fault) : Bool :=
  match fault.kind with
  | .os | .missingFile | .permission | .existingFile | .noDirectory | .directory => true
  | _ => false

/-- Whether a fault is about a value that does not fit, or about bytes that are no
text. -/
def isValue (fault : Fault) : Bool := fault.kind == .value || fault.kind == .encoding

/-- Whether a fault is about a document that cannot be read. -/
def isDocument (fault : Fault) : Bool :=
  match fault.kind with
  | .document _ => true
  | _ => false

end Fault

/-- Turn the errors of a service into faults. -/
def orFault {ε α : Type} (wrap : ε → Fault) (result : Except ε α) : Except Fault α :=
  result.mapError wrap

end Runbook
