import Chip8.Instruction.Arithmetic
import Chip8.Instruction.Fields
import Chip8.Machine.RegisterFile

/-!
# The instruction set

Thirty-four instructions, the six conditional skips among them grouped by their condition and the
nine arithmetic ones by their operation. `Instruction.decode?` finds the instruction of an opcode.
Opcodes count by their fields, except that the two instructions without operands are those of
exactly one integer each.
-/

namespace Chip8

/-- What a conditional skip tests. -/
inductive Condition where
  | holds (register : Register) (byte : UInt8)
  | differs (register : Register) (byte : UInt8)
  | same (left right : Register)
  | distinct (left right : Register)
  | keyDown (register : Register)
  | keyUp (register : Register)
  deriving DecidableEq, Repr

/-- What one opcode does. -/
inductive Instruction where
  /-- `00E0`: turn every pixel off. -/
  | clearScreen
  /-- `00EE`: go back to the newest return address. -/
  | returnFromCall
  /-- `1NNN`: go to an address. -/
  | jump (target : UInt16)
  /-- `2NNN`: go to an address, to return behind this instruction. -/
  | call (target : UInt16)
  /-- `3XNN`, `4XNN`, `5XY0`, `9XY0`, `EX9E`, `EXA1`: leave out the next instruction. -/
  | skipIf (condition : Condition)
  /-- `6XNN`: put a byte into a register. -/
  | setByte (target : Register) (byte : UInt8)
  /-- `7XNN`: add a byte to a register, without a carry. -/
  | addByte (target : Register) (byte : UInt8)
  /-- `8XYN`: combine two registers into the first. -/
  | arithmetic (operation : Arithmetic) (target source : Register)
  /-- `ANNN`: put an address into the index register. -/
  | setIndex (address : UInt16)
  /-- `BNNN`: go to an address plus V0. -/
  | jumpFrom (base : UInt16)
  /-- `CXNN`: put the masked bits of a random byte into a register. -/
  | random (target : Register) (mask : UInt8)
  /-- `DXYN`: draw the sprite at the index at the place that two registers hold. -/
  | draw (column row : Register) (height : Fin 16)
  /-- `FX07`: put the delay timer into a register. -/
  | readDelay (target : Register)
  /-- `FX0A`: wait for a key and put its number into a register. -/
  | awaitKey (target : Register)
  /-- `FX15`: put a register into the delay timer. -/
  | setDelay (source : Register)
  /-- `FX18`: put a register into the sound timer. -/
  | setSound (source : Register)
  /-- `FX1E`: add a register to the index. -/
  | addToIndex (source : Register)
  /-- `FX29`: point the index at the sprite of a digit. -/
  | pointAtGlyph (source : Register)
  /-- `FX33`: store the three decimal digits of a register at the index. -/
  | storeDecimal (source : Register)
  /-- `FX55`: store V0 up to a register at the index. -/
  | storeRegisters (last : Register)
  /-- `FX65`: load V0 up to a register from the index. -/
  | loadRegisters (last : Register)
  deriving DecidableEq, Repr

namespace Instruction

/-- The instruction without operands that an opcode stands for. -/
def system? (opcode : Int) : Option Instruction :=
  if opcode = 0x00E0 then some .clearScreen
  else if opcode = 0x00EE then some .returnFromCall
  else none

/-- The keypad instruction that the last byte of an `EXNN` opcode selects. -/
def keypad? (x : Register) : Nat → Option Instruction
  | 0x9E => some (.skipIf (.keyDown x))
  | 0xA1 => some (.skipIf (.keyUp x))
  | _ => none

/-- The instruction that the last byte of an `FXNN` opcode selects. -/
def miscellaneous? (x : Register) : Nat → Option Instruction
  | 0x07 => some (.readDelay x)
  | 0x0A => some (.awaitKey x)
  | 0x15 => some (.setDelay x)
  | 0x18 => some (.setSound x)
  | 0x1E => some (.addToIndex x)
  | 0x29 => some (.pointAtGlyph x)
  | 0x33 => some (.storeDecimal x)
  | 0x55 => some (.storeRegisters x)
  | 0x65 => some (.loadRegisters x)
  | _ => none

def decode? (opcode : Int) : Option Instruction :=
  let fields := Fields.ofOpcode opcode
  match fields.family.val with
  | 0x0 => system? opcode
  | 0x1 => some (.jump fields.nnn)
  | 0x2 => some (.call fields.nnn)
  | 0x3 => some (.skipIf (.holds fields.x fields.nn))
  | 0x4 => some (.skipIf (.differs fields.x fields.nn))
  | 0x5 => if fields.n.val = 0 then some (.skipIf (.same fields.x fields.y)) else none
  | 0x6 => some (.setByte fields.x fields.nn)
  | 0x7 => some (.addByte fields.x fields.nn)
  | 0x8 => (Arithmetic.ofDigit? fields.n).map (.arithmetic · fields.x fields.y)
  | 0x9 => if fields.n.val = 0 then some (.skipIf (.distinct fields.x fields.y)) else none
  | 0xA => some (.setIndex fields.nnn)
  | 0xB => some (.jumpFrom fields.nnn)
  | 0xC => some (.random fields.x fields.nn)
  | 0xD => some (.draw fields.x fields.y fields.n)
  | 0xE => keypad? fields.x fields.nn.toNat
  | _ => miscellaneous? fields.x fields.nn.toNat

end Instruction

end Chip8
