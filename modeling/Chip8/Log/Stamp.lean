import Chip8.Numeral

/-!
# Time stamps

Times are counted in eighths of a second. A clock shows 53 binary digits: a reading, and a distance
between two readings, that needs more is rounded to the nearest time that does not. Stamps are
written in seconds with two places. Wherever something is rounded, a half goes to the even
neighbour. A time before the start keeps its minus sign.
-/

namespace Chip8

open Numeral

/-- A quotient to the nearest natural number, and to the even one of two that are equally near. -/
def roundHalfEven (numerator denominator : Nat) : Nat :=
  let quotient := numerator / denominator
  let twice := 2 * (numerator % denominator)
  if denominator < twice ∨ (denominator = twice ∧ quotient % 2 = 1) then quotient + 1 else quotient

/-- An integer rounded to a number of leading binary digits; those behind them become zeros. -/
def roundDigits (digits : Nat) (value : Int) : Int :=
  let unit := 1 <<< (value.natAbs.log2 + 1 - digits)
  value.sign * (unit * roundHalfEven value.natAbs unit : Nat)

/-- The number of binary digits that a clock shows. -/
def clockDigits : Nat := 53

/-- The time from one moment to another, by the readings of a clock. -/
def elapsed (start now : Int) : Int :=
  roundDigits clockDigits (roundDigits clockDigits now - roundDigits clockDigits start)

/-- Eighths of a second as seconds with two places, at least eight characters wide. -/
def writeSeconds (eighths : Int) : String :=
  let hundredths := roundHalfEven (25 * eighths.natAbs) 2
  let sign := if eighths < 0 then ['-'] else []
  let text := sign ++ natural 10 0 (hundredths / 100) ++ '.' :: natural 10 2 (hundredths % 100)
  String.ofList (text.leftpad 8 ' ')

end Chip8
