/-!
Command lines of the host's shell. The shell stands for a program that belongs to the host,
like those in `Host.Tools`: a run reaches it through its launcher only.
-/

namespace Runbook.Host.Shell

/-- A part of a word. What stands between quotes is not split into words. -/
inductive Part
  | text (quoted : Bool) (text : List Char)
  | variable (quoted : Bool) (name : String)
  | fallback (quoted : Bool) (name : String) (emptyToo : Bool) (value : List Char)
  | replacement (quoted : Bool) (name : String) (emptyToo : Bool) (value : List Char)
  | length (name : String)
  | arithmetic (quoted : Bool) (expression : List Char)
  | output (quoted : Bool) (script : List Char)
  deriving DecidableEq, Repr

abbrev Word := List Part

inductive Direction
  | write
  | append
  | read
  | join
  deriving DecidableEq, Repr

structure Redirection where
  stream : Nat
  direction : Direction
  target : Word
  deriving DecidableEq, Repr

inductive Statement
  | nothing
  | simple (assignments : List (String × Word)) (words : List Word)
      (redirections : List Redirection)
  | redirected (body : Statement) (redirections : List Redirection)
  | pipe (left right : Statement)
  | both (left right : Statement)
  | either (left right : Statement)
  | negated (body : Statement)
  | sequence (first second : Statement)
  | choice (condition body otherwise : Statement)
  | repeated (inverted : Bool) (condition body : Statement)
  | each (name : String) (words : List Word) (body : Statement)
  | apart (body : Statement)

end Runbook.Host.Shell
