/-!
# The fields of an opcode

An opcode is read as four digits of base sixteen: the family, two register numbers and a small
operand. The last two digits together are a byte, the last three an address. An opcode may be any
integer; the fields are those of its low sixteen bits, in two's complement.
-/

namespace Chip8

/-- The operands that an opcode can hold. -/
structure Fields where
  family : Fin 16
  x : Fin 16
  y : Fin 16
  n : Fin 16
  nn : UInt8
  nnn : UInt16
  deriving DecidableEq, Repr

namespace Fields

/-- The fields of the low sixteen bits of an opcode. -/
def ofOpcode (opcode : Int) : Fields :=
  let word := (opcode % 65536).toNat
  { family := Fin.ofNat 16 (word / 4096)
    x := Fin.ofNat 16 (word / 256)
    y := Fin.ofNat 16 (word / 16)
    n := Fin.ofNat 16 word
    nn := UInt8.ofNat word
    nnn := UInt16.ofNat (word % 4096) }

end Fields

end Chip8
