import Chip8.Numeral
import Chip8.Quoted

/-!
# Faults of the machine and mistakes of its host

A `Fault` is what stops a program: an opcode with no meaning, or an access outside memory, the
register file, the return stack or the keypad. Each fault carries the operands that identify it.

A `Misuse` is an argument that makes no sense, whatever the machine is doing. An `Error` is either
of them, or the refusal of a session that a fault has already stopped.
-/

namespace Chip8

open Numeral

/-- The reasons for which a running program stops. -/
inductive Fault where
  /-- No instruction has this opcode; the address is that of the program counter, if it is known. -/
  | invalidOpcode (opcode : Int) (address : Option Int)
  /-- The range of `length` bytes from `address` does not lie in memory. -/
  | memoryAccess (address length : Int)
  | registerIndex (index : Int)
  | stackOverflow (capacity : Int)
  | stackUnderflow
  | invalidKey (key : Int)
  deriving DecidableEq, Repr

namespace Fault

def message : Fault → String
  | .invalidOpcode opcode none => String.join ["Unknown opcode 0x", hex 4 opcode]
  | .invalidOpcode opcode (some address) =>
      String.join ["Unknown opcode 0x", hex 4 opcode, " at 0x", hex 3 address]
  | .memoryAccess address length =>
      String.join ["Invalid memory access of ", decimal length, " byte(s) at 0x", hex 0 address]
  | .registerIndex index => String.join ["Invalid register V", hex 0 index, " (0xF is the max)"]
  | .stackOverflow capacity =>
      String.join ["Attempting to push when stack is full (", decimal capacity, " entries)"]
  | .stackUnderflow => "Attempting to pop empty stack"
  | .invalidKey key => String.join ["Invalid key 0x", hex 0 key, " (keys are 0x0-0xF)"]

end Fault

/-- The arguments that an operation refuses. -/
inductive Misuse where
  /-- The integer does not fit the word that would have to hold it. -/
  | outOfRange (value : Int)
  /-- A program image holds an integer that is not a byte. -/
  | notAByte (value : Int)
  /-- A colour has this many components, and not one or three. -/
  | colorComponents (count : Nat)
  | spriteHeight (height : Int)
  /-- A frame is to have this many cycles, and not at least one. -/
  | cyclesPerFrame (count : Int)
  /-- An image is to be enlarged by this factor, and not by at least one. -/
  | scale (factor : Int)
  /-- No colour scheme has this name; the known names follow. -/
  | colorScheme (name : String) (known : List String)
  /-- No log level has this name; the known names follow. -/
  | logLevel (name : String) (known : List String)
  | emptyScript
  deriving DecidableEq, Repr

namespace Misuse

/-- A list of names as messages write it: in square brackets, each name in quotes. -/
def listing (names : List String) : String :=
  String.join ["[", String.intercalate ", " (names.map Quoted.write), "]"]

/-- The text of a mistake. Data that does not fit where it is to be stored is refused by the
storage, without a text of the machine's. -/
def message? : Misuse → Option String
  | .outOfRange _ | .notAByte _ | .colorComponents _ | .spriteHeight _ => none
  | .cyclesPerFrame count =>
      some (String.join ["cycles_per_frame must be positive, got ", decimal count])
  | .scale factor => some (String.join ["scale must be at least 1, got ", decimal factor])
  | .colorScheme name known =>
      some (String.join ["Unknown color scheme '", name, "'. Available: ", listing known])
  | .logLevel name known =>
      some (String.join ["Unknown log level '", name, "'. Available: ", listing known])
  | .emptyScript => some "ScriptedRandom needs at least one value"

end Misuse

/-- The ways in which an operation can fail. -/
inductive Error where
  | fault (cause : Fault)
  /-- The program stopped earlier, at this fault, and the session does not go on. -/
  | halted (cause : Fault)
  | misuse (mistake : Misuse)
  deriving DecidableEq, Repr

namespace Error

/-- The text with which a stopped session refuses, given the text of what stopped it. -/
def haltedText (cause : String) : String :=
  String.join ["Session halted after fatal error: ", cause, ". Call reset() to restart."]

end Error

end Chip8
