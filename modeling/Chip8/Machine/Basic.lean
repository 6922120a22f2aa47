import Chip8.Display.Basic
import Chip8.Machine.RegisterFile
import Chip8.Machine.ReturnStack
import Chip8.Machine.Timer
import Chip8.Random.Threefry

/-!
# The machine

Everything that a program can change: memory, registers, return stack, display, timers and the key
of the random generator. The program counter and the index register are 16-bit words, and wrap.
-/

namespace Chip8

open Numeral

/-- The state of a machine. -/
structure Machine where
  key : WordPair
  memory : Memory
  pc : UInt16
  index : UInt16
  registers : RegisterFile
  stack : ReturnStack
  display : Display
  delay : Timer
  sound : Timer
  deriving DecidableEq, Repr

namespace Machine

def powerOn (key : WordPair) : Machine where
  key := key
  memory := .powerOn
  pc := UInt16.ofNat Memory.programStart
  index := 0
  registers := .powerOn
  stack := .empty ReturnStack.standardCapacity
  display := .blank
  delay := .zero
  sound := .zero

def load (machine : Machine) (program : List UInt8) : Except Fault Machine :=
  (machine.memory.load program).map fun memory => { machine with memory }

/-- A machine at power-on with a program in its memory. -/
def boot (key : WordPair) (program : List UInt8) : Except Fault Machine :=
  (powerOn key).load program

def advance (machine : Machine) (distance : UInt16) : Machine :=
  { machine with pc := machine.pc + distance }

def advanceInteger (machine : Machine) (distance : Int) : Except Misuse Machine :=
  (Word.lowHalf distance).map machine.advance

/-- Moves the program counter behind this instruction, and behind the next one too if a condition
holds. -/
def skipIf (machine : Machine) (condition : Bool) : Machine :=
  machine.advance (if condition then 4 else 2)

/-- Skips on an integer that a host gives for the condition: all but zero hold. -/
def skipIfInteger (machine : Machine) (condition : Int) : Except Misuse Machine :=
  (Word.signed 32 condition).map fun condition => machine.skipIf (condition != 0)

/-- The opcode at the program counter, whose high byte comes first. -/
def fetch (machine : Machine) : Except Fault UInt16 :=
  (machine.memory.read machine.pc.toNat 2).map fun
    | [high, low] => UInt16.ofNat (256 * high.toNat + low.toNat)
    | _ => 0

def tick (machine : Machine) : Machine :=
  { machine with delay := machine.delay.tick, sound := machine.sound.tick }

/-- The program counter, the index, the number of return addresses and the registers on one line. -/
def summary (machine : Machine) : String :=
  let registers := (List.finRange 16).map fun register =>
    "V" ++ hex 0 register.val ++ ":" ++ hex 2 (machine.registers.get register).toNat
  "PC:0x" ++ hex 3 machine.pc.toNat ++ " I:0x" ++ hex 3 machine.index.toNat ++
    " SP:" ++ decimal machine.stack.pointer ++ " " ++ String.intercalate " " registers

end Machine

end Chip8
