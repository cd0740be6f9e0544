import Runbook.Text.Quoted

/-!
What can be wrong with a pattern or with the text that replaces its matches.
-/

namespace Runbook.Pattern

inductive Fault
  | endsInEscape
  | incompleteEscape (escape : String)
  | badEscape (escape : String)
  | octalTooLarge (escape : String)
  | missingBrace
  | missingName (what : String)
  | openName (terminator : Char)
  | undefinedCharacter (name : String)
  | groupStillOpen
  | groupInLookBehind
  | noSuchGroup (number : Nat)
  | badGroupNumber
  | badGroupName (name : String)
  | unknownGroupName (name : String)
  | redefinedGroup (name : String) (number earlier : Nat)
  | openSet
  | badRange (first last : String)
  | boundsReversed
  | nothingToRepeat
  | multipleRepeat
  | unexpectedEnd
  | unknownExtension (text : String)
  | openComment
  | openGroup
  | unbalanced
  | tooManyBranches
  | lateFlags
  | localeFlag
  | exclusiveFlags
  | missingFlagEnd
  | unknownFlag
  | missingFlag
  | missingColon
  | globalFlagOn
  | globalFlagOff
  | typeFlagOff
  | flagOnAndOff
  | variableLookBehind
  | lookBehindTooWide
  | repetitionInTemplate (name : String)
  | missingAngle
  | codeTooLarge
  | tooManyRepetitions
  | tooManyDigits (count : Nat)
  | contraryFlags
  | unknownTemplateGroup (name : String)
  deriving DecidableEq, Repr

def Fault.message : Fault → String
  | .endsInEscape => "bad escape (end of pattern)"
  | .incompleteEscape escape => s!"incomplete escape {escape}"
  | .badEscape escape => s!"bad escape {escape}"
  | .octalTooLarge escape => s!"octal escape value {escape} outside of range 0-0o377"
  | .missingBrace => "missing \x7b"
  | .missingName what => s!"missing {what}"
  | .openName terminator => s!"missing {terminator}, unterminated name"
  | .undefinedCharacter name => s!"undefined character name {Text.quoted name}"
  | .groupStillOpen => "cannot refer to an open group"
  | .groupInLookBehind => "cannot refer to group defined in the same lookbehind subpattern"
  | .noSuchGroup number => s!"invalid group reference {number}"
  | .badGroupNumber => "bad group number"
  | .badGroupName name => s!"bad character in group name {Text.quoted name}"
  | .unknownGroupName name => s!"unknown group name {Text.quoted name}"
  | .redefinedGroup name number earlier =>
      s!"redefinition of group name {Text.quoted name} as group {number}; was group {earlier}"
  | .openSet => "unterminated character set"
  | .badRange first last => s!"bad character range {first}-{last}"
  | .boundsReversed => "min repeat greater than max repeat"
  | .nothingToRepeat => "nothing to repeat"
  | .multipleRepeat => "multiple repeat"
  | .unexpectedEnd => "unexpected end of pattern"
  | .unknownExtension text => s!"unknown extension {text}"
  | .openComment => "missing ), unterminated comment"
  | .openGroup => "missing ), unterminated subpattern"
  | .unbalanced => "unbalanced parenthesis"
  | .tooManyBranches => "conditional backref with more than two branches"
  | .lateFlags => "global flags not at the start of the expression"
  | .localeFlag => "bad inline flags: cannot use 'L' flag with a str pattern"
  | .exclusiveFlags => "bad inline flags: flags 'a', 'u' and 'L' are incompatible"
  | .missingFlagEnd => "missing -, : or )"
  | .unknownFlag => "unknown flag"
  | .missingFlag => "missing flag"
  | .missingColon => "missing :"
  | .globalFlagOn => "bad inline flags: cannot turn on global flag"
  | .globalFlagOff => "bad inline flags: cannot turn off global flag"
  | .typeFlagOff => "bad inline flags: cannot turn off flags 'a', 'u' and 'L'"
  | .flagOnAndOff => "bad inline flags: flag turned on and off"
  | .variableLookBehind => "look-behind requires fixed-width pattern"
  | .lookBehindTooWide => "looks too much behind"
  | .repetitionInTemplate name => s!"internal: unsupported template operator {name}"
  | .missingAngle => "missing <"
  | .codeTooLarge => "Python int too large to convert to C int"
  | .tooManyRepetitions => "the repetition number is too large"
  | .tooManyDigits count =>
      s!"Exceeds the limit (4300 digits) for integer string conversion: value has {count} digits; "
        ++ "use sys.set_int_max_str_digits() to increase the limit"
  | .contraryFlags => "ASCII and UNICODE flags are incompatible"
  | .unknownTemplateGroup name => s!"unknown group name {Text.quoted name}"

/-- How a fault is classified: most are errors of the pattern, but a number, its
digits, a combination of flags and a name can also be refused as such. -/
inductive Fault.Kind
  | pattern
  | number
  | digits
  | flags
  | name
  deriving DecidableEq, Repr

def Fault.kind : Fault → Fault.Kind
  | .codeTooLarge | .tooManyRepetitions => .number
  | .tooManyDigits _ => .digits
  | .contraryFlags => .flags
  | .unknownTemplateGroup _ => .name
  | _ => .pattern

/-- A fault and the place in the text at which it was found, if it has one. -/
structure Error where
  fault : Fault
  position : Option Nat
  text : List Char
  deriving DecidableEq, Repr

namespace Error

/-- The line and the column of a position, both counted from one. -/
def lineAndColumn (text : List Char) (position : Nat) : Nat × Nat :=
  let before := text.take position
  (before.count '\n' + 1, (before.reverse.takeWhile (· != '\n')).length + 1)

def message (error : Error) : String :=
  match error.position with
  | none => error.fault.message
  | some position =>
      let located := s!"{error.fault.message} at position {position}"
      if error.text.contains '\n' then
        let (line, column) := lineAndColumn error.text position
        s!"{located} (line {line}, column {column})"
      else located

end Error

end Runbook.Pattern
