import Runbook.Options.Layout
import Runbook.Text.Lines

/-!
The commands: their names, what they are for, what options they take, and what
else they can be given on a line.
-/

namespace Runbook

inductive Command
  | echo
  | filterHelp
  | help
  | listCommands
  | listProfiles
  | listScriptCommands
  | run
  | script
  | scriptHelp
  | calculate
  | deleteDirectory
  | dumpVariables
  | flatten
  | forRange
  | forEach
  | listDirectories
  | listFiles
  | readLines
  | replace
  | replaceExtension
  | set
  | split
  | unset
  deriving DecidableEq, Repr

namespace Command

def name : Command → String
  | .echo => "echo"
  | .filterHelp => "filter_help"
  | .help => "help"
  | .listCommands => "list_cmds"
  | .listProfiles => "list_envs"
  | .listScriptCommands => "list_script_cmds"
  | .run => "run"
  | .script => "script"
  | .scriptHelp => "script_help"
  | .calculate => "calc"
  | .deleteDirectory => "del_dir"
  | .dumpVariables => "dump_vars"
  | .flatten => "flatten"
  | .forRange => "for"
  | .forEach => "foreach"
  | .listDirectories => "list_dirs"
  | .listFiles => "list_files"
  | .readLines => "read_lines"
  | .replace => "replace"
  | .replaceExtension => "replace_ext"
  | .set => "set"
  | .split => "split"
  | .unset => "unset"

/-! ## Which commands there are -/

/-- The commands that are known everywhere, in the order of their names. -/
def general : List Command := [.echo, .filterHelp, .help, .listCommands, .listProfiles,
  .listScriptCommands, .run, .script, .scriptHelp]

/-- The commands that are known in scripts only, in the order of their names. -/
def scriptOnly : List Command := [.calculate, .deleteDirectory, .dumpVariables, .flatten,
  .forRange, .forEach, .listDirectories, .listFiles, .readLines, .replace, .replaceExtension,
  .set, .split, .unset]

/-- The commands that are known in a script, or outside of any. -/
def known (inScript : Bool) : List Command :=
  if inScript then scriptOnly ++ general else general

def find? (inScript : Bool) (name : String) : Option Command :=
  (known inScript).find? fun command => command.name == name

def findScriptOnly? (name : String) : Option Command :=
  scriptOnly.find? fun command => command.name == name

/-- The names of the known commands in the order of their code points. -/
def knownNames (inScript : Bool) : List String :=
  ((known inScript).map name).mergeSort fun a b => a ≤ b

/-! ## What commands can be given -/

def needsProfile (command : Command) : Bool := command == .run

def takesBlock (command : Command) : Bool := command == .forRange || command == .forEach

def runsLines (command : Command) : Bool := command == .script || command.takesBlock

def takesFilters (command : Command) : Bool := command == .run

def isStoppable (command : Command) : Bool :=
  command == .run || command == .script || command.takesBlock

/-- Whether a command takes arguments that are no options. -/
def takesArguments (command : Command) : Bool :=
  command == .run || command == .set || command == .unset

/-! ## Options -/

open Options (Parameter Grammar)

def number (flag name description : String) : Parameter :=
  ⟨[flag], name, .number, true, .absent, description⟩

/-- The parameters of a command that has options. -/
def parameters? : Command → Option (List Parameter)
  | .echo => some [
      .requiredText "--message" "message" "the message to output",
      .switch "--stderr" "stderr"
        "for outputting the message on stderr instead of stdout"]
  | .filterHelp => some [
      .optionalText "--filter" "filter" "the specific filter to output the help for."]
  | .listProfiles => some [
      .switch "--verbose" "verbose" "outputs more information if enabled"]
  | .script => some [
      .requiredText "--file" "file" "the script file to execute",
      .switch "--verbose" "verbose" "outputs the raw and expanded lines"]
  | .scriptHelp => some [
      .optionalText "--cmd" "cmd" "the specific script command to output the help for."]
  | .calculate => some [
      .requiredText "--expr" "expr" "the expression to evaluate",
      .requiredText "--var" "var" "the variable to store the result in"]
  | .deleteDirectory => some [
      .requiredText "--dir" "dir" "the directory to delete"]
  | .flatten => some [
      .requiredText "--array" "array" "the array variable to flatten",
      .optionalText "--glue" "glue"
        "the string to put between elements; supports \\t, \\n and \\r",
      .requiredText "--dest" "dest" "the variable to store the string in"]
  | .forRange => some [
      number "--from" "lower" "the lower bound (inclusive)",
      number "--to" "upper" "the upper bound (exclusive)",
      ⟨["--step"], "step", .number, false, .number (.ofNat 1),
        "the step amount for each iteration"⟩,
      .requiredText "--dest" "dest" "the variable to store the current value under",
      .switch "--verbose" "verbose" "outputs the current value on stderr"]
  | .forEach => some [
      .requiredText "--iterate" "iterate" "the variable to iterate over",
      .requiredText "--dest" "dest" "the variable to store the current element under",
      .switch "--verbose" "verbose" "outputs the current element on stderr"]
  | .listDirectories => some [
      .requiredText "--dir" "dir" "the directory to list",
      .switch "--recursive" "recursive" "whether to look for directories recursively",
      .optionalText "--regexp" "regexp"
        "the regular expression the directory names must match",
      ⟨["--dest", "--var"], "dest", .text, true, .absent,
        "the variable to store the directories in"⟩]
  | .listFiles => some [
      .requiredText "--dir" "dir" "the directory to list",
      .switch "--recursive" "recursive" "whether to look for files recursively",
      .optionalText "--regexp" "regexp" "the regular expression the file names must match",
      .requiredText "--dest" "dest" "the variable to store the files in"]
  | .readLines => some [
      .requiredText "--file" "file" "the file to read",
      .switch "--skip-empty" "skip_empty" "whether to skip empty lines",
      .optionalText "--regexp" "regexp" "the regular expression the lines must match",
      .switch "--invert-matching" "invert_matching" "keep the lines that do not match",
      .requiredText "--dest" "dest" "the variable to store the lines in"]
  | .replace => some [
      .requiredText "--str" "source" "the variable to process",
      .requiredText "--find" "find" "the string or pattern to find",
      .optionalText "--replace" "replace" "the replacement string",
      .switch "--regexp" "regexp" "whether to use regular expression matching",
      .switch "--all" "all" "replace all regular expression matches, not just the first",
      .requiredText "--dest" "dest" "the variable to store the result in"]
  | .replaceExtension => some [
      .requiredText "--file" "file" "the file name to process",
      .optionalText "--ext" "ext"
        "the new extension incl. dot; omit to remove the extension",
      .requiredText "--dest" "dest" "the variable to store the result in"]
  | .split => some [
      .requiredText "--str" "source" "the variable holding the string to split",
      .requiredText "--delimiter" "delimiter" "the regular expression to split on",
      .requiredText "--dest" "dest" "the variable to store the array in"]
  | .help | .listCommands | .listScriptCommands | .run | .dumpVariables | .set | .unset => none

def grammar? (command : Command) : Option Grammar :=
  command.parameters?.map (.ofCommand command.name)

/-! ## Help -/

def purpose : Command → String
  | .echo => "Outputs the specified message."
  | .filterHelp => "Prints help on the available output filters."
  | .help => "Outputs help information."
  | .listCommands => "Lists all available commands."
  | .listProfiles => "Lists all available environments."
  | .listScriptCommands =>
      "Lists all available script commands.\nThese commands can be used with the script command."
  | .run =>
      "Executes the environment's executable, passing on all arguments.\n" ++
      "The output of the process can be filtered."
  | .script =>
      "Executes the specified script.\n" ++
      "Use the 'list_script_cmds' command to see the available script commands."
  | .scriptHelp => "Prints help on the available script commands."
  | .calculate =>
      "Evaluates a mathematical expression and stores the result.\n" ++
      "Supports + - * / // % **, parentheses, pi, e and functions like sqrt or sin."
  | .deleteDirectory => "Deletes a directory recursively."
  | .dumpVariables => "Outputs all the currently set variables."
  | .flatten => "Joins the elements of an array variable into a single string."
  | .forRange =>
      "Iterates over a numeric range and executes the nested block.\n" ++
      "The upper bound is exclusive."
  | .forEach =>
      "Iterates over the elements of a variable and executes the nested block.\n" ++
      "A string variable is treated as a single element."
  | .listDirectories =>
      "Lists the sub-directories of a directory and stores the absolute paths as array."
  | .listFiles => "Lists the files in a directory and stores the absolute paths as array."
  | .readLines => "Reads the lines of a text file into an array."
  | .replace =>
      "Replaces strings in a variable, simple or regular expression based.\n" ++
      "Arrays have every element processed."
  | .replaceExtension => "Replaces or removes the extension of a file name."
  | .set =>
      "Sets a variable, either as 'name=value' or as 'name value'.\n" ++
      "Multiple values after the name are joined with a blank."
  | .split => "Splits a string variable into an array using a regular expression."
  | .unset => "Removes the specified variable."

/-- The command with what may follow it on a line. -/
def usage (command : Command) : String :=
  command.name ++
    (if command.needsProfile then " <env>" else "") ++
    (if command.parameters?.isSome then " <options>" else "") ++
    (if command.takesArguments then " <args>" else "") ++
    (if command.takesFilters then " [| filter ...]" else "")

def indented (text : String) : List String :=
  (Text.splitLines text.toList).map fun line => "\t" ++ String.ofList line

/-- What a command does, and with `full` also its options. -/
def helpScreen (command : Command) (requested full : Bool) : String :=
  let start := if requested then ["Help requested", ""] else []
  let options :=
    if full then
      match command.grammar? with
      | some grammar => ["", grammar.help none none]
      | none => []
    else []
  "\n".intercalate (start ++ command.usage :: indented command.purpose ++ options)

end Command

end Runbook
