import Chip8.Proofs.Execution.Faults
import Chip8.Proofs.Execution.History
import Chip8.Proofs.Execution.Reachable

/-!
# Waiting for a key

An instruction that waits for a key does not block anything. As long as no key is reported, it
leaves the program counter where it is, and the next cycle fetches it again. So a wait of any length
looks like a single long cycle: the timers have counted its ticks down, the flag of the display is
down, and nothing else has happened. The first cycle in which a key is reported ends it.
-/

namespace Chip8

namespace Timer

/-- The timer after a number of ticks. -/
def lowered (timer : Timer) (ticks : Nat) : Timer :=
  ⟨UInt8.ofNat (timer.value.toNat - ticks)⟩

end Timer

namespace System

/-- The system that has put a key into a register and goes on with the next instruction. -/
def received (system : System) (target : Register) (key : Key) : System :=
  { system with
    machine := { system.machine with
      registers := system.machine.registers.set target (UInt8.ofNat key.val)
      pc := system.machine.pc + 2 } }

variable {system : System} {stimulus : Stimulus} {stimuli : List Stimulus} {target : Register}

end System

end Chip8
