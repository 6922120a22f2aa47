import Chip8.Log.Logger
import Chip8.Machine.Basic

/-!
# What a session reports

A session tells its logger when a program has been loaded, when it is reset, which instruction it is
about to execute, and what stopped it. Each kind of event has its level; being stopped takes two
messages, the second of which shows the registers.
-/

namespace Chip8

open Numeral

/-- Something worth a message. -/
inductive Event where
  | loaded (size : Int)
  | reset (cycles : Int)
  /-- The opcode at an address is about to be executed. -/
  | instruction (address opcode : Int)
  /-- An error, described by its text, has stopped the machine in this state. -/
  | stopped (description : String) (machine : Machine)

namespace Event

def level : Event → Level
  | .loaded _ | .reset _ => .info
  | .instruction _ _ => .debug
  | .stopped _ _ => .critical

def messages : Event → List String
  | .loaded size => ["Loaded ROM: " ++ decimal size ++ " bytes at 0x200"]
  | .reset cycles => ["Reset after " ++ decimal cycles ++ " cycles"]
  | .instruction address opcode => [hex 4 address ++ ": " ++ hex 4 opcode]
  | .stopped description machine => ["Fatal error: " ++ description, machine.summary]

/-- The entries that an event makes in a logger. -/
def entries (event : Event) (logger : Logger) (now : Int) : List Entry :=
  if logger.accepts event.level then
    event.messages.map fun message => ⟨event.level, event.level.name, now, message⟩
  else []

end Event

end Chip8
