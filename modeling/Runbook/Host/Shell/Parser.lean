import Runbook.Host.Shell.Lexer

/-!
Reading the statements of a script for the host's shell.
-/

namespace Runbook.Host.Shell

/-- Reading from tokens. It fails if they do not fit together. -/
abbrev Reader := StateT (List Token) Option

namespace Reader

def peek : Reader (Option Token) := return (← get).head?

def skip : Reader Unit := modify List.tail

def refuse {α : Type} : Reader α := fun _ => none

/-- The text of a word that is a single part without quotes. -/
def plainWord? : Token → Option String
  | .word [.text false text] => some (String.ofList text)
  | _ => none

def takeReserved? (word : String) : Reader Bool := do
  match ← peek with
  | some token =>
      if plainWord? token == some word then
        skip
        return true
      else return false
  | none => return false

def expectReserved (word : String) : Reader Unit := do
  if !(← takeReserved? word) then refuse

def takeOperator? (text : String) : Reader Bool := do
  if (← peek) == some (.operator text) then
    skip
    return true
  else return false

def skipNewlines : (fuel : Nat) → Reader Unit
  | 0 => return ()
  | fuel + 1 => do if ← takeOperator? "\n" then skipNewlines fuel

end Reader

open Reader

def closingWords : List String :=
  ["then", "else", "elif", "fi", "do", "done", "\x7d"]

def endsList (token : Option Token) : Bool :=
  match token with
  | none => true
  | some (.operator ")") => true
  | some token => (plainWord? token).any closingWords.contains

def assignment? : Word → Option (String × Word)
  | .text false text :: rest =>
      let name := text.takeWhile isNameCharacter
      match name, text.drop name.length with
      | c :: _, '=' :: value =>
          if isNameStart c then
            let start : Word := if value.isEmpty then [] else [.text false value]
            some (String.ofList name, start ++ rest)
          else none
      | _, _ => none
  | _ => none

def redirections : (fuel : Nat) → Reader (List Redirection)
  | 0 => return []
  | fuel + 1 => do
      match ← get with
      | .redirection stream direction :: .word target :: rest =>
          set rest
          return ⟨stream, direction, target⟩ :: (← redirections fuel)
      | .redirection _ _ :: _ => refuse
      | _ => return []

structure Simple where
  assignments : List (String × Word)
  words : List Word
  redirections : List Redirection

def simpleFrom : (fuel : Nat) → Simple → Reader Simple
  | 0, simple => return simple
  | fuel + 1, simple => do
      match ← get with
      | .word word :: rest =>
          set rest
          match if simple.words.isEmpty then assignment? word else none with
          | some assignment =>
              simpleFrom fuel { simple with assignments := simple.assignments ++ [assignment] }
          | none => simpleFrom fuel { simple with words := simple.words ++ [word] }
      | .redirection stream direction :: .word target :: rest =>
          set rest
          let redirection : Redirection := ⟨stream, direction, target⟩
          simpleFrom fuel { simple with redirections := simple.redirections ++ [redirection] }
      | .redirection _ _ :: _ => refuse
      | _ => return simple

def wordList : (fuel : Nat) → Reader (List Word)
  | 0 => return []
  | fuel + 1 => do
      match ← get with
      | .word word :: rest =>
          set rest
          return word :: (← wordList fuel)
      | _ => return []

mutual

/-- Statements up to a word or an operator that ends them. -/
def statements : (fuel : Nat) → Reader Statement
  | 0 => refuse
  | fuel + 1 => do
      skipNewlines (fuel + 1)
      if endsList (← peek) then return .nothing
      else
        let first ← chain fuel
        if (← takeOperator? ";") || (← takeOperator? "\n") || (← takeOperator? "&") then
          return .sequence first (← statements fuel)
        else if endsList (← peek) then return first
        else refuse

/-- Pipelines that depend on each other. -/
def chain : (fuel : Nat) → Reader Statement
  | 0 => refuse
  | fuel + 1 => do chainFrom fuel (← pipeline fuel)

def chainFrom : (fuel : Nat) → Statement → Reader Statement
  | 0, _ => refuse
  | fuel + 1, left => do
      if ← takeOperator? "&&" then
        skipNewlines fuel
        chainFrom fuel (.both left (← pipeline fuel))
      else if ← takeOperator? "||" then
        skipNewlines fuel
        chainFrom fuel (.either left (← pipeline fuel))
      else return left

def pipeline : (fuel : Nat) → Reader Statement
  | 0 => refuse
  | fuel + 1 => do
      if ← takeReserved? "!" then return .negated (← pipeline fuel)
      else
        let first ← statement fuel
        if ← takeOperator? "|" then
          skipNewlines fuel
          return .pipe first (← pipeline fuel)
        else return first

def statement : (fuel : Nat) → Reader Statement
  | 0 => refuse
  | fuel + 1 => do
      match ← compound fuel with
      | some body =>
          let found ← redirections fuel
          return if found.isEmpty then body else .redirected body found
      | none =>
          let simple ← simpleFrom (fuel + 1) ⟨[], [], []⟩
          if simple.assignments.isEmpty && simple.words.isEmpty && simple.redirections.isEmpty then
            refuse
          else return .simple simple.assignments simple.words simple.redirections

/-- A statement that holds others, if the next one does. -/
def compound : (fuel : Nat) → Reader (Option Statement)
  | 0 => refuse
  | fuel + 1 => do
      if ← takeOperator? "(" then
        let body ← statements fuel
        if ← takeOperator? ")" then return some (.apart body) else refuse
      else if ← takeReserved? "\x7b" then
        let body ← statements fuel
        expectReserved "\x7d"
        return some body
      else if ← takeReserved? "if" then return some (← choiceFrom fuel)
      else if ← takeReserved? "while" then return some (← repetition false fuel)
      else if ← takeReserved? "until" then return some (← repetition true fuel)
      else if ← takeReserved? "for" then
        match ← get with
        | token :: rest =>
            match plainWord? token with
            | none => refuse
            | some name =>
                set rest
                let words ← if ← takeReserved? "in" then wordList fuel
                  else pure [[.variable true "@"]]
                let _ ← takeOperator? ";"
                skipNewlines fuel
                expectReserved "do"
                let body ← statements fuel
                expectReserved "done"
                return some (.each name words body)
        | [] => refuse
      else return none

/-- What follows the word that starts a choice. -/
def choiceFrom : (fuel : Nat) → Reader Statement
  | 0 => refuse
  | fuel + 1 => do
      let condition ← statements fuel
      expectReserved "then"
      let body ← statements fuel
      if ← takeReserved? "elif" then return .choice condition body (← choiceFrom fuel)
      else if ← takeReserved? "else" then
        let otherwise ← statements fuel
        expectReserved "fi"
        return .choice condition body otherwise
      else
        expectReserved "fi"
        return .choice condition body .nothing

def repetition (inverted : Bool) : (fuel : Nat) → Reader Statement
  | 0 => refuse
  | fuel + 1 => do
      let condition ← statements fuel
      expectReserved "do"
      let body ← statements fuel
      expectReserved "done"
      return .repeated inverted condition body

end

def parse? (script : List Char) : Option Statement := do
  let found ← tokens (script.length + 1) script
  let (statement, rest) ← (statements (8 * found.length + 20)).run found
  if rest.isEmpty then return statement else none

end Runbook.Host.Shell
