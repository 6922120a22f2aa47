import Chip8.Fault

/-!
# Integers handed in as words

A host gives integers of any size. Byte data must already consist of bytes. Where a register or an
address is given, an integer of the host's own word size is accepted and its low bits are taken; an
integer beyond that word size is refused. `UInt8.ofInt` and `UInt16.ofInt` take the low bits.
-/

namespace Chip8

namespace Word

theorem toNat_lt_sixteen {value : Int} (inside : 0 ≤ value ∧ value < 16) : value.toNat < 16 := by
  omega

/-- Accepts the integers that a two's-complement word of the given number of bits can hold. -/
def signed (bits : Nat) (value : Int) : Except Misuse Int :=
  let bound : Nat := 1 <<< (bits - 1)
  if -bound ≤ value ∧ value < bound then .ok value else .error (.outOfRange value)

def byte (value : Int) : Except Misuse UInt8 :=
  if 0 ≤ value ∧ value < 256 then .ok (UInt8.ofInt value) else .error (.outOfRange value)

/-- Accepts a list of integers each of which is a byte; the first that is not one is reported. -/
def bytes (values : List Int) : Except Misuse (List UInt8) :=
  values.mapM byte

def lowByte (value : Int) : Except Misuse UInt8 :=
  (signed 32 value).map UInt8.ofInt

def lowHalf (value : Int) : Except Misuse UInt16 :=
  (signed 32 value).map UInt16.ofInt

end Word

end Chip8
