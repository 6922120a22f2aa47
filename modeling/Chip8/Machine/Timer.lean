import Chip8.Word

/-!
# Timers

The delay timer and the sound timer are bytes that count down to zero, one step per tick, sixty
ticks a second.
-/

namespace Chip8

structure Timer where
  value : UInt8
  deriving DecidableEq, Repr

namespace Timer

def zero : Timer :=
  ⟨0⟩

def ofInteger (value : Int) : Except Misuse Timer :=
  (Word.byte value).map Timer.mk

/-- Counts down by one, and stays at zero. -/
def tick (timer : Timer) : Timer :=
  if timer.value = 0 then timer else ⟨timer.value - 1⟩

/-- A timer with the low byte of a value that a host gives. -/
def ofLowByte (value : Int) : Except Misuse Timer :=
  (Word.lowByte value).map Timer.mk

def isActive (timer : Timer) : Bool :=
  0 < timer.value

/-- A tick subtracts one from the value as a natural number, which stops at zero. -/
@[simp]
theorem toNat_value_tick (timer : Timer) : timer.tick.value.toNat = timer.value.toNat - 1 := by
  by_cases stopped : timer.value = 0
  · simp [tick, stopped]
  · have positive : 1 ≤ timer.value.toNat := by
      rcases Nat.eq_zero_or_pos timer.value.toNat with zero | positive
      · exact absurd (UInt8.toNat_inj.mp zero) stopped
      · exact positive
    rw [tick, if_neg stopped]
    exact UInt8.toNat_sub_of_le _ _ (UInt8.le_iff_toNat_le.mpr positive)

end Timer

end Chip8
