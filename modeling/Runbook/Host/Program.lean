import Runbook.Fault
import Runbook.Files.Tree

/-!
Programs of the host as they are seen from outside: what is needed to start one,
and what it then does.
-/

namespace Runbook.Host

/-- What a program is started with. Without a directory it starts in the working
directory. -/
structure Launch where
  arguments : List String
  environment : List (String × String)
  directory : Option String
  deriving DecidableEq, Repr

def Launch.program (launch : Launch) : String := launch.arguments.headD ""

/-- One thing that can be seen of a program: a line that it writes, or a time that
it spends waiting. While it waits it may or may not heed a request to terminate. -/
inductive Action
  | line (stdout : Bool) (text : String)
  | pause (seconds : Double) (heeds : Bool)
  deriving DecidableEq, Repr

/-- How a program comes to its end by itself. -/
inductive Ending
  | exited (code : Nat)
  | killed (signal : Nat)
  deriving DecidableEq, Repr

/-- An ending as a number. Signals are negative. -/
def Ending.code : Ending → Int
  | .exited code => code
  | .killed signal => -signal

/-- Everything that a started program does, and the files that it leaves. -/
structure Activity where
  identity : Nat
  actions : List Action
  ending : Ending
  files : Files.FileSystem

/-- How a host starts programs. A run takes this from outside, as it does the programs. -/
abbrev Launcher := Files.FileSystem → Launch → Except Fault Activity

/-- The signal that asks a program to terminate. -/
def terminationSignal : Nat := 15

/-- The signal that ends a program at once. -/
def killSignal : Nat := 9

end Runbook.Host
