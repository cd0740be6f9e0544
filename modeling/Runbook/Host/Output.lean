import Runbook.Host.Program
import Runbook.Text.Utf8

/-!
The output of a program as it is written, byte by byte, and the lines that a reader
makes of it.
-/

namespace Runbook.Host

/-- A step of a program: bytes written to a stream, or time spent waiting. -/
inductive Step
  | write (stdout : Bool) (bytes : List UInt8)
  | pause (seconds : Double) (heeds : Bool)

def bytesOf (text : String) : List UInt8 := text.toUTF8.toList

def newline : UInt8 := 10

def carriageReturn : UInt8 := 13

/-- The complete lines in bytes, and the bytes behind them. A carriage return at the
very end may still be followed by a newline. `current` is held in reverse. -/
def takeLines : (current : List UInt8) → List UInt8 → List (List UInt8) × List UInt8
  | current, [] => ([], current.reverse)
  | current, byte :: rest =>
      if byte == newline then
        let (lines, left) := takeLines [] rest
        (current.reverse :: lines, left)
      else if byte == carriageReturn then
        match rest with
        | [] => ([], (byte :: current).reverse)
        | next :: after =>
            let (lines, left) :=
              if next == newline then takeLines [] after else takeLines [] (next :: after)
            (current.reverse :: lines, left)
      else takeLines (byte :: current) rest

def lineAction (stdout : Bool) (bytes : List UInt8) : Action :=
  .line stdout (String.ofList (Text.Utf8.decodeLenient bytes))

/-- The line at the end of a stream, which needs no line end. -/
def lastLine (stdout : Bool) (left : List UInt8) : List Action :=
  if left.isEmpty then []
  else [lineAction stdout (if left.getLast? == some carriageReturn then left.dropLast else left)]

/-- What is seen of the steps of a program. The bytes of the two streams that belong
to unfinished lines are kept. -/
def actionsOf : (out err : List UInt8) → List Step → List Action
  | out, err, [] => lastLine true out ++ lastLine false err
  | out, err, .pause seconds heeds :: rest => .pause seconds heeds :: actionsOf out err rest
  | out, err, .write stdout bytes :: rest =>
      let (lines, left) := takeLines [] ((if stdout then out else err) ++ bytes)
      lines.map (lineAction stdout) ++
        if stdout then actionsOf left err rest else actionsOf out left rest

end Runbook.Host
