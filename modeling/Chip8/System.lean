import Chip8.Machine.Perform
import Chip8.Random.Source

/-!
# Running programs

A `System` is a machine together with the source of its random bytes. It executes single opcodes,
cycles, which fetch an opcode from memory and execute it, and runs, which are cycles in a row. A
byte is sampled for the random instruction and for no other, and a step that faults samples nothing.
-/

namespace Chip8

/-- A machine and the source of its random bytes. -/
structure System where
  machine : Machine
  source : RandomSource
  deriving DecidableEq, Repr

/-- What a cycle depends on besides the system: whether the timers tick, and what the keys are. -/
structure Stimulus where
  tick : Bool
  input : Input

namespace System

def byte (system : System) : UInt8 :=
  system.source.byte system.machine.key

def sample (system : System) : System where
  machine := { system.machine with key := system.source.nextKey system.machine.key }
  source := system.source.next

/-- The system that performs an instruction: one byte has been sampled for the random instruction,
and none for the others. -/
def supply (system : System) : Instruction → System
  | .random _ _ => system.sample
  | _ => system

/-- Performs an instruction, sampling a byte if the instruction needs one. -/
def perform (system : System) (input : Input) (instruction : Instruction) : Except Fault System :=
  ((system.supply instruction).machine.perform input system.byte instruction).map fun machine =>
    { system.supply instruction with machine }

def execute (system : System) (opcode : Int) (input : Input) : Except Fault System :=
  match Instruction.decode? opcode with
  | some instruction => system.perform input instruction
  | none => .error (.invalidOpcode opcode (some system.machine.pc.toNat))

def clearDirty (system : System) : System :=
  { system with machine := { system.machine with display := system.machine.display.clearDirty } }

def tickIf (system : System) (tick : Bool) : System :=
  if tick then { system with machine := system.machine.tick } else system

/-- Fetches an opcode and executes it. The display's flag is lowered before the instruction, and the
timers tick after it. -/
def cycle (system : System) (stimulus : Stimulus) : Except Fault System := do
  let opcode ← system.machine.fetch
  let next ← system.clearDirty.execute opcode.toNat stimulus.input
  return next.tickIf stimulus.tick

/-- Goes on from the system that a cycle leaves; a cycle that faults ends the run where it was. -/
def proceed (system : System) (result : Except Fault System)
    (rest : System → System × Option Fault) : System × Option Fault :=
  match result with
  | .ok next => rest next
  | .error cause => (system, some cause)

/-- Runs a cycle for each stimulus up to the first fault. The system is that after the last cycle
that was completed. -/
def run (system : System) : List Stimulus → System × Option Fault
  | [] => (system, none)
  | stimulus :: rest => system.proceed (system.cycle stimulus) fun next => next.run rest

/-- Runs a number of cycles with the same stimulus up to the first fault. -/
def runFor (system : System) (stimulus : Stimulus) : Nat → System × Option Fault
  | 0 => (system, none)
  | count + 1 => system.proceed (system.cycle stimulus) fun next => next.runFor stimulus count

end System

end Chip8
