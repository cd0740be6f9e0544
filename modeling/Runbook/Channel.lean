/-!
Channels for output. Every line goes to the console, if the channel has one, and to
every listener in the order in which they were added.
-/

namespace Runbook

/-- A channel with its listeners, each of which it has once. -/
structure Channel (ι : Type) where
  listeners : List ι
  console : Bool

namespace Channel

variable {ι : Type} [BEq ι]

/-- Add a listener unless it is there already. -/
def add (channel : Channel ι) (listener : ι) : Channel ι :=
  if channel.listeners.contains listener then channel
  else { channel with listeners := channel.listeners ++ [listener] }

def remove (channel : Channel ι) (listener : ι) : Channel ι :=
  { channel with listeners := channel.listeners.erase listener }

def consoleText (channel : Channel ι) (line : String) : String :=
  if channel.console then line ++ "\n" else ""

/-- The listeners together with the line that each of them is given. -/
def deliveries (channel : Channel ι) (stdout : Bool) (line : String) :
    List (ι × String × Bool) :=
  channel.listeners.map fun listener => (listener, line, stdout)

end Channel

end Runbook
