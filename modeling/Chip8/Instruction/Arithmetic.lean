/-!
# Arithmetic on registers

Nine operations combine the values of two registers into a byte. Some also say what becomes of the
flag: the carry of an addition, the absence of a borrow in a subtraction, the bit that a shift
drops. A subtraction of equal values counts as one that borrows. Shifts look at the first value
only.
-/

namespace Chip8

/-- The operations on two register values. -/
inductive Arithmetic where
  | copy
  | or
  | and
  | xor
  | add
  | subtract
  | shiftRight
  | subtractFrom
  | shiftLeft
  deriving DecidableEq, Repr

namespace Arithmetic

/-- The operation of the last digit of an `8XYN` opcode. -/
def ofDigit? : Nat → Option Arithmetic
  | 0x0 => some .copy
  | 0x1 => some .or
  | 0x2 => some .and
  | 0x3 => some .xor
  | 0x4 => some .add
  | 0x5 => some .subtract
  | 0x6 => some .shiftRight
  | 0x7 => some .subtractFrom
  | 0xE => some .shiftLeft
  | _ => none

/-- The last digit of the opcodes of an operation. -/
def digit : Arithmetic → Nat
  | .copy => 0x0
  | .or => 0x1
  | .and => 0x2
  | .xor => 0x3
  | .add => 0x4
  | .subtract => 0x5
  | .shiftRight => 0x6
  | .subtractFrom => 0x7
  | .shiftLeft => 0xE

/-- The byte that an operation makes of two values. -/
def result (operation : Arithmetic) (left right : UInt8) : UInt8 :=
  match operation with
  | .copy => right
  | .or => left ||| right
  | .and => left &&& right
  | .xor => left ^^^ right
  | .add => left + right
  | .subtract => left - right
  | .shiftRight => left >>> 1
  | .subtractFrom => right - left
  | .shiftLeft => left <<< 1

/-- The flag that an operation sets, if it sets one. -/
def flag? (operation : Arithmetic) (left right : UInt8) : Option Bool :=
  match operation with
  | .copy | .or | .and | .xor => none
  | .add => some (decide (255 < left.toNat + right.toNat))
  | .subtract => some (decide (right < left))
  | .shiftRight => some (left.toNat.testBit 0)
  | .subtractFrom => some (decide (left < right))
  | .shiftLeft => some (left.toNat.testBit 7)

end Arithmetic

end Chip8
