/-!
# Written integers

Dumps and messages write integers in base sixteen with upper-case digits, or in base ten. A number
may be asked to fill a minimum width with leading zeros; a minus sign stands before the zeros and
counts towards the width. A number that needs more room than the width simply takes it.
-/

namespace Chip8

namespace Numeral

/-- The digits of a natural number in a base of at least two, most significant digit first. -/
def digits (base number : Nat) : List Nat :=
  if base < 2 ∨ number < base then [number]
  else digits base (number / base) ++ [number % base]
termination_by number
decreasing_by
  apply Nat.div_lt_self <;> omega

/-- The character of one digit: `0` to `9`, then `A` onwards. -/
def symbol (digit : Nat) : Char :=
  if digit < 10 then Char.ofNat (48 + digit) else Char.ofNat (55 + digit)

/-- A natural number in some base, filled with zeros on the left up to a width. -/
def natural (base width number : Nat) : List Char :=
  ((digits base number).map symbol).leftpad width '0'

/-- An integer in some base: a minus sign if it is negative, and its magnitude in the rest of the
width. -/
def integer (base width : Nat) (value : Int) : List Char :=
  if value < 0 then '-' :: natural base (width - 1) value.natAbs
  else natural base width value.natAbs

def hex (width : Nat) (value : Int) : String :=
  String.ofList (integer 16 width value)

def decimal (value : Int) : String :=
  String.ofList (integer 10 0 value)

end Numeral

end Chip8
