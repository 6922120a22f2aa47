import Mathlib.Data.Nat.Digits.Defs
import Chip8.Numeral

/-!
# Reading written numbers back

The digits of a number tell the number, and the zeros in front of them do not matter, so numbers
that are written alike are equal. A number that fits a width is written with exactly that many
characters.
-/

namespace Chip8

namespace Numeral

/-- The digit that a character stands for. -/
def worth (character : Char) : Nat :=
  if character.toNat < 58 then character.toNat - 48 else character.toNat - 55

/-- The number that a text stands for in some base. -/
def value (base : Nat) (text : List Char) : Nat :=
  Nat.ofDigits base (text.reverse.map worth)

/-- The characters that stand for the digits of base sixteen. -/
def hexSymbols : List Char :=
  "0123456789ABCDEF".toList

theorem worth_symbol : ∀ digit < 36, worth (symbol digit) = digit := by
  decide

theorem symbol_mem_hexSymbols : ∀ digit < 16, symbol digit ∈ hexSymbols := by
  decide

variable {base number width digit : Nat} {character : Char}

theorem lt_of_mem_digits (large : 2 ≤ base) (written : digit ∈ digits base number) :
    digit < base := by
  fun_induction digits base number with
  | case1 number single =>
      rw [List.mem_singleton] at written
      omega
  | case2 number several ih =>
      rcases List.mem_append.mp written with leading | last
      · exact ih leading
      · rw [List.mem_singleton.mp last]
        exact Nat.mod_lt number (by omega)

theorem ofDigits_reverse_digits (base number : Nat) :
    Nat.ofDigits base (digits base number).reverse = number := by
  fun_induction digits base number with
  | case1 number single => simp
  | case2 number several ih => simp [Nat.ofDigits_cons, ih, Nat.mod_add_div]

theorem length_digits_le (fits : number < base ^ (width + 1)) :
    (digits base number).length ≤ width + 1 := by
  fun_induction digits base number generalizing width with
  | case1 number single => simp
  | case2 number several ih =>
      cases width with
      | zero => simp at fits; omega
      | succ width =>
          have leading : number / base < base ^ (width + 1) := by
            apply Nat.div_lt_of_lt_mul
            rwa [Nat.mul_comm, ← Nat.pow_succ]
          simpa using ih leading

/-- A written number is read back, whatever width it has been filled up to. -/
theorem value_natural (large : 2 ≤ base) (known : base ≤ 36) (width number : Nat) :
    value base (natural base width number) = number := by
  have read : (digits base number).map (worth ∘ symbol) = digits base number := by
    refine (List.map_congr_left ?_).trans (List.map_id _)
    intro digit written
    exact worth_symbol digit (Nat.lt_of_lt_of_le (lt_of_mem_digits large written) known)
  have zero : worth '0' = 0 := rfl
  simp [value, natural, List.leftpad, zero, read, ofDigits_reverse_digits]

theorem length_natural (fits : number < base ^ (width + 1)) :
    (natural base (width + 1) number).length = width + 1 := by
  have room := length_digits_le fits
  simp [natural]
  omega

/-- The digits of every base up to sixteen are among those of base sixteen. -/
theorem mem_hexSymbols_of_base_le (large : 2 ≤ base) (known : base ≤ 16)
    (written : character ∈ natural base width number) : character ∈ hexSymbols := by
  rw [natural, List.leftpad, List.mem_append] at written
  rcases written with filled | digits
  · rw [List.eq_of_mem_replicate filled]
    decide
  · rcases List.mem_map.mp digits with ⟨digit, among, rfl⟩
    exact symbol_mem_hexSymbols digit (Nat.lt_of_lt_of_le (lt_of_mem_digits large among) known)

theorem mem_hexSymbols_of_mem_natural (written : character ∈ natural 16 width number) :
    character ∈ hexSymbols :=
  mem_hexSymbols_of_base_le (by decide) (by decide) written

theorem blank_not_mem_natural (large : 2 ≤ base) (known : base ≤ 16) (width number : Nat) :
    ' ' ∉ natural base width number := by
  intro written
  exact absurd (mem_hexSymbols_of_base_le large known written) (by decide)

theorem natural_inj {first second : Nat} (large : 2 ≤ base) (known : base ≤ 36) :
    natural base width first = natural base width second ↔ first = second := by
  constructor
  · intro same
    rw [← value_natural large known width first, same, value_natural large known]
  · rintro rfl
    rfl

theorem hex_natCast (width number : Nat) :
    hex width number = String.ofList (natural 16 width number) := by
  rw [hex, integer, if_neg (by omega), Int.natAbs_natCast]

theorem decimal_natCast (number : Nat) : decimal number = String.ofList (natural 10 0 number) := by
  rw [decimal, integer, if_neg (by omega), Int.natAbs_natCast]

end Numeral

end Chip8
